import RpcBindings.Proofs.Schema.Typed
import RpcBindings.Proofs.Target.Template

/-! Types and defaults of fields. A table finds the two separately, by the kind of a field, by what it
refers to and by its cardinality. They go together: both are those of a list, of an enum, of a
message, or of a scalar that has both, and both fall back for a field that does not say what it
holds. Loaded schemas have no such fields. -/
namespace RpcBindings

open Schema

theorem Schema.Kind.mem_all (k : Kind) : k ∈ Kind.all := by
  cases k <;> decide

/-- The kinds of fields that refer to a declaration. -/
def Schema.Kind.IsNamed (k : Kind) : Prop := k ∈ [Kind.enum, Kind.message, Kind.group]

instance (k : Kind) : Decidable k.IsNamed := by
  unfold Kind.IsNamed
  infer_instance

namespace Schema.FieldDecl

/-- What a field holds if it holds one value. -/
inductive Holds (f : FieldDecl) : Prop
  | enum {e} : f.kind = some .enum → f.enum = some e → f.Holds
  | message {kind m} : f.kind = some kind → kind ∈ [Kind.message, Kind.group] → f.message = some m →
      f.Holds
  | scalar {kind} : f.kind = some kind → ¬kind.IsNamed → f.Holds

theorem untyped_or_holds (f : FieldDecl) : f.Untyped ∨ f.Holds := by
  cases said : f.kind with
  | none => exact .inl (.inl said)
  | some kind =>
    by_cases named : kind.IsNamed
    · simp only [Kind.IsNamed, List.mem_cons, List.not_mem_nil, or_false] at named
      rcases named with rfl | messages
      · cases held : f.enum with
        | none => exact .inl (.inr (.inl ⟨said, held⟩))
        | some e => exact .inr (.enum said held)
      · cases held : f.message with
        | none =>
          refine .inl (.inr (.inr ⟨?_, held⟩))
          rw [said]
          exact messages.imp (congrArg some) (congrArg some)
        | some m => exact .inr (.message said (by simpa using messages) held)
    · exact .inr (.scalar said named)

end Schema.FieldDecl

namespace TypeTable

variable {t : TypeTable} {f : FieldDecl}

/-- Whether a table has a type and a default for every scalar, none of its own for what is declared
under a name, and makes messages by a call. -/
structure Complete (t : TypeTable) : Prop where
  scalar : ∀ kind, ¬kind.IsNamed →
    (t.scalarTypes.get? kind).isSome = true ∧ (t.defaultValues.get? kind).isSome = true
  named : ∀ kind : Kind, kind.IsNamed →
    t.scalarTypes.get? kind = none ∧ t.defaultValues.get? kind = none
  call : t.messageDefault = .around "" "()"

/-- A type and a default that go together, as those of a field that is no list. -/
inductive Settles (t : TypeTable) (f : FieldDecl) : (type value : String) → Prop
  | enum {e constant} : f.kind = some .enum → f.enum = some e →
      constant = (e.values.head?.map (·.name)).getD t.enumFallback →
      t.Settles f e.name (e.name ++ "." ++ constant)
  | message {kind m} : f.kind = some kind → kind ∈ [Kind.message, Kind.group] → f.message = some m →
      t.Settles f m.name (m.name ++ "()")
  | scalar {kind type value} : f.kind = some kind → ¬kind.IsNamed →
      t.scalarTypes.get? kind = some type → t.defaultValues.get? kind = some value →
      t.Settles f type value
  | anything : f.Untyped → t.Settles f t.anyType t.nullLiteral

/-- The table with another type for anything, and another literal for nothing. -/
def withFallback (t : TypeTable) (any null : String) : TypeTable :=
  { t with anyType := any, nullLiteral := null }

theorem enumDefault_eq (t : TypeTable) (e : EnumDecl) :
    t.enumDefault e = e.name ++ "." ++ (e.values.head?.map (·.name)).getD t.enumFallback := by
  rw [enumDefault]
  cases e.values <;> rfl

/-! ### What a field refers to -/

theorem references_of_untyped (untyped : f.Untyped) : enumOf? f = none ∧ messageOf? f = none := by
  rcases untyped with none | ⟨kind, none⟩ | ⟨kind | kind, none⟩
  · simp [enumOf?, messageOf?, none]
  all_goals simp [enumOf?, messageOf?, none, kind]

theorem enumOf?_eq {e : EnumDecl} (kind : f.kind = some .enum) (held : f.enum = some e) :
    enumOf? f = some e := by
  rw [enumOf?, if_pos kind, held]

/-- A field that holds one value of an enum has its name for a type, and its default. -/
theorem single_of_enum {e : EnumDecl} (kind : f.kind = some .enum) (held : f.enum = some e)
    (single : f.isList = false) : t.fieldType f = e.name ∧ t.defaultValue f = t.enumDefault e := by
  simp [fieldType, elementType, defaultValue, single, enumOf?_eq kind held]

theorem references_of_message {kind : Kind} {m : MessageRef} (said : f.kind = some kind)
    (messages : kind ∈ [Kind.message, Kind.group]) (held : f.message = some m) :
    enumOf? f = none ∧ messageOf? f = some m := by
  simp only [List.mem_cons, List.not_mem_nil, or_false] at messages
  rcases messages with rfl | rfl <;> simp [enumOf?, messageOf?, said, held]

theorem references_of_scalar {kind : Kind} (said : f.kind = some kind) (scalar : ¬kind.IsNamed) :
    enumOf? f = none ∧ messageOf? f = none := by
  simp only [Kind.IsNamed, List.mem_cons, List.not_mem_nil, or_false, not_or] at scalar
  simp [enumOf?, messageOf?, said, scalar]

/-! ### Fields that are no lists -/

section

variable (complete : t.Complete)
include complete

theorem Complete.scalarType {kind : Kind} (scalar : ¬kind.IsNamed) :
    ∃ type value, t.scalarTypes.get? kind = some type ∧ t.defaultValues.get? kind = some value := by
  obtain ⟨types, values⟩ := complete.scalar kind scalar
  obtain ⟨type, typed⟩ := Option.isSome_iff_exists.mp types
  obtain ⟨value, valued⟩ := Option.isSome_iff_exists.mp values
  exact ⟨type, value, typed, valued⟩

/-- A field that does not say what it holds has the type for anything and the null literal. -/
theorem fallback_of_untyped (untyped : f.Untyped) (single : f.isList = false) :
    t.fieldType f = t.anyType ∧ t.defaultValue f = t.nullLiteral := by
  obtain ⟨noEnum, noMessage⟩ := references_of_untyped untyped
  have unlisted : f.kind.bind t.scalarTypes.get? = none ∧ f.kind.bind t.defaultValues.get? = none := by
    rcases untyped with none | ⟨kind, -⟩ | ⟨kind | kind, -⟩
    · simp [none]
    all_goals
      rw [kind]
      exact complete.named _ (by decide)
  simp [fieldType, elementType, defaultValue, single, noEnum, noMessage, unlisted]

/-- What a table finds for a field that is no list goes together. -/
theorem settles (single : f.isList = false) : t.Settles f (t.fieldType f) (t.defaultValue f) := by
  rcases f.untyped_or_holds with untyped | ⟨kind, held⟩ | ⟨kind, messages, held⟩ | ⟨kind, scalar⟩
  · obtain ⟨type, value⟩ := fallback_of_untyped complete untyped single
    rw [type, value]
    exact .anything untyped
  · obtain ⟨type, value⟩ := single_of_enum (t := t) kind held single
    rw [type, value, enumDefault_eq]
    exact .enum kind held rfl
  · rename_i said m
    have made : t.messageDefault.fill m.name = m.name ++ "()" := by
      rw [complete.call, Pattern.fill, String.empty_append]
    obtain ⟨noEnum, message⟩ := references_of_message kind messages held
    simp only [fieldType, elementType, defaultValue, single, noEnum, message, made]
    exact .message kind messages held
  · obtain ⟨type, value, typed, valued⟩ := complete.scalarType scalar
    obtain ⟨noEnum, noMessage⟩ := references_of_scalar kind scalar
    have typeEq : t.fieldType f = type := by
      simp [fieldType, elementType, single, noEnum, noMessage, kind, typed]
    have valueEq : t.defaultValue f = value := by
      simp [defaultValue, single, noEnum, noMessage, kind, valued]
    rw [typeEq, valueEq]
    exact .scalar kind scalar typed valued

theorem Complete.withFallback (any null : String) : (t.withFallback any null).Complete :=
  ⟨complete.scalar, complete.named, complete.call⟩

/-- A field that says what it holds has nothing to do with what stands in for a type, be it a list
or not. -/
theorem withFallback_of_typed (typed : ¬f.Untyped) (any null : String) :
    (t.withFallback any null).fieldType f = t.fieldType f ∧
      (t.withFallback any null).defaultValue f = t.defaultValue f := by
  rcases f.untyped_or_holds.resolve_left typed with ⟨kind, held⟩ | ⟨kind, messages, held⟩ | ⟨kind, scalar⟩
  · simp only [fieldType, elementType, defaultValue, enumOf?_eq kind held]
    exact ⟨rfl, rfl⟩
  · obtain ⟨noEnum, message⟩ := references_of_message kind messages held
    simp only [fieldType, elementType, defaultValue, noEnum, message]
    exact ⟨rfl, rfl⟩
  · obtain ⟨type, value, named, valued⟩ := complete.scalarType scalar
    obtain ⟨noEnum, noMessage⟩ := references_of_scalar kind scalar
    simp [fieldType, elementType, defaultValue, withFallback, noEnum, noMessage, kind, named, valued]

end

/-- A list has the list form of the type that it would have if it were none, and is empty. -/
theorem list_of_repeated (list : f.isList = true) {cardinality : Cardinality}
    (single : cardinality ≠ .repeated) :
    t.fieldType f = t.listType.fill (t.fieldType { f with cardinality }) ∧
      t.defaultValue f = t.emptyList := by
  have one : FieldDecl.isList { f with cardinality } = false := by simpa [FieldDecl.isList] using single
  rw [fieldType, fieldType, defaultValue, if_pos list, if_pos list, one]
  exact ⟨rfl, rfl⟩

end TypeTable

/-! ### The languages -/

theorem Target.types_complete {t : TypeTable} (builtin : t ∈ builtins.map (·.types)) : t.Complete := by
  have evaluated : ∀ t ∈ builtins.map (·.types),
      (∀ kind ∈ Kind.all, ¬kind.IsNamed →
        (t.scalarTypes.get? kind).isSome = true ∧ (t.defaultValues.get? kind).isSome = true) ∧
      (∀ kind ∈ Kind.all, kind.IsNamed →
        t.scalarTypes.get? kind = none ∧ t.defaultValues.get? kind = none) ∧
      t.messageDefault = .around "" "()" := by
    decide +kernel
  obtain ⟨scalar, named, call⟩ := evaluated t builtin
  exact ⟨fun kind => scalar kind kind.mem_all, fun kind => named kind kind.mem_all, call⟩

/-- The type and the default of a field go together, in all languages. A list has the list form of the
type that it would have otherwise, and is empty; any other field has a type and a default of one
kind. Both fall back if and only if the field does not say what it holds, and no field of a loaded
schema does so. -/
theorem Target.type_default_agree {t : TypeTable} (builtin : t ∈ builtins.map (·.types)) :
    (∀ f : FieldDecl,
      (f.isList = true → t.defaultValue f = t.emptyList ∧ ∀ cardinality ≠ .repeated,
        t.fieldType f = t.listType.fill (t.fieldType { f with cardinality })) ∧
      (f.isList = false → t.Settles f (t.fieldType f) (t.defaultValue f)) ∧
      (f.isList = false → f.Untyped → ∀ any null,
        (t.withFallback any null).fieldType f = any ∧
        (t.withFallback any null).defaultValue f = null) ∧
      (¬f.Untyped → ∀ any null,
        (t.withFallback any null).fieldType f = t.fieldType f ∧
        (t.withFallback any null).defaultValue f = t.defaultValue f)) ∧
    ∀ descriptors wanted stack files, loadFiles descriptors wanted stack = .ok files →
      ∀ m ∈ declaredMessages files, ∀ f ∈ m.fields, ¬f.Untyped ∧ ∀ any null,
        (t.withFallback any null).fieldType f = t.fieldType f ∧
        (t.withFallback any null).defaultValue f = t.defaultValue f := by
  have complete := types_complete builtin
  refine ⟨fun f => ⟨fun list => ?_, TypeTable.settles complete, ?_, ?_⟩, ?_⟩
  · have single : Cardinality.optional ≠ .repeated := nofun
    have empty := (TypeTable.list_of_repeated (t := t) list single).2
    exact ⟨empty, fun cardinality single => (TypeTable.list_of_repeated list single).1⟩
  · exact fun single untyped any null =>
      TypeTable.fallback_of_untyped (complete.withFallback any null) untyped single
  · exact fun typed => TypeTable.withFallback_of_typed complete typed
  · intro descriptors wanted stack files loaded m member f field
    have typed := loadFiles_fieldsTyped loaded m member f field
    exact ⟨typed, TypeTable.withFallback_of_typed complete typed⟩

/-- A message with a list of numbers and an enum. -/
def paint : List FileDescriptor := [
  { name := some "p.proto", package := some "p"
    enums := [{ name := some "Color", values := [{ name := some "RED", number := some 0 }] }]
    messages := [
      { name := some "Paint"
        fields := [
          { name := some "shades", number := some 1, label := some 3, type := some 5 },
          { name := some "color", number := some 2, label := some 1, type := some 14
            typeName := some ".p.Color" }] }] }]

/-- The fields of the message as they are loaded. -/
def paintShades : FieldDecl := ⟨"shades", 1, some .int32, .repeated, none, none⟩

def paintColor : FieldDecl :=
  ⟨"color", 2, some .enum, .optional, some ⟨"Color", "p.Color", "p.proto", "p", [⟨"RED", 0⟩]⟩, none⟩

/-- The list, the enum, and the enum if its declaration were lost. -/
theorem Target.type_default_agree_paint :
    (∃ files, loadFiles paint [] = .ok files ∧ ∃ m ∈ declaredMessages files,
      m.fields = [paintShades, paintColor] ∧ ¬paintColor.Untyped) ∧
    dart.types.fieldType paintShades = "List<int>" ∧ dart.types.defaultValue paintShades = "const []" ∧
    dart.types.Settles paintColor "Color" "Color.RED" ∧
    (dart.types.withFallback "any" "none").fieldType paintColor = "Color" ∧
    (dart.types.withFallback "any" "none").fieldType { paintColor with enum := none } = "any" ∧
    (dart.types.withFallback "any" "none").defaultValue { paintColor with enum := none } = "none" := by
  have evaluated : ∃ files ∈ (loadFiles paint []).toOption, ∃ m ∈ declaredMessages files,
      m.fields = [paintShades, paintColor] := by decide +kernel
  obtain ⟨files, loaded, m, member, fields⟩ := Outcome.ok_of_toOption evaluated
  obtain ⟨agree, pooled⟩ := type_default_agree (t := dart.types) (by decide)
  have color : paintColor ∈ m.fields := by simp [fields]
  obtain ⟨typed, unaffected⟩ := pooled paint [] none files loaded m member paintColor color
  obtain ⟨list, -, -, -⟩ := agree paintShades
  obtain ⟨-, single, -, -⟩ := agree paintColor
  obtain ⟨-, -, fallback, -⟩ := agree { paintColor with enum := none }
  obtain ⟨empty, ofElement⟩ := list rfl
  obtain ⟨type, value⟩ := fallback rfl (by decide) "any" "none"
  exact ⟨⟨files, loaded, m, member, fields, typed⟩, ofElement .optional nofun, empty, single rfl,
    (unaffected "any" "none").1, type, value⟩

end RpcBindings
