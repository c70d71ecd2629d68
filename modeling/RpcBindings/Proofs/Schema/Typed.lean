import RpcBindings.Proofs.Schema.Mirror
import RpcBindings.Proofs.Schema.Unique

/-! Fields have types. A field by itself may have no kind, or a kind without the declaration that the
kind calls for; no field of a linked schema is like that. What rules it out is split in two: a
declaration is refused if a type that goes by name has none, and linking finds what a name stands
for. -/
namespace RpcBindings.Schema

open Outcome

/-- Whether a field does not say what it holds: it has no kind, or it holds an enum or a message and
there is none. -/
def FieldDecl.Untyped (f : FieldDecl) : Prop :=
  f.kind = none ∨ (f.kind = some .enum ∧ f.enum = none) ∨
    ((f.kind = some .message ∨ f.kind = some .group) ∧ f.message = none)

instance (f : FieldDecl) : Decidable f.Untyped := by
  unfold FieldDecl.Untyped
  infer_instance

/-- Whether every field of a message says what it holds. -/
def MessageDecl.FieldsTyped (m : MessageDecl) : Prop := ∀ f ∈ m.fields, ¬f.Untyped

/-! ### Fields -/

/-- What a field by itself is checked for: only a kind that goes by name has a name, and it has
one. -/
def FieldDescriptor.NamesType (f : FieldDescriptor) : Prop :=
  ∃ field, f.checkTypeName field = .ok ()

/-- A field without the name of a type holds a scalar. -/
theorem FieldDescriptor.NamesType.scalar {f : FieldDescriptor} (named : f.NamesType)
    (untyped : f.typeName = none) {kind : Kind} (said : f.type.bind Kind.ofNumber? = some kind) :
    kind ∉ [.group, .message, .enum] := by
  obtain ⟨field, checked⟩ := named
  rw [checkTypeName, said, untyped] at checked
  intro member
  have required : kind = .group ∨ kind = .message ∨ kind = .enum := by simpa using member
  simp [required] at checked

/-- A field that is checked and linked says what it holds. -/
theorem FieldDescriptor.link_typed {f : FieldDescriptor} {table : SymbolTable} {c : Context}
    {oneofs : List OneofDescriptor} {d : FieldDecl} (named : f.NamesType)
    (linked : f.link table c oneofs = .ok d) : ¬d.Untyped := by
  obtain ⟨r, resolved, linked⟩ := bind_ok_iff.mp linked
  obtain ⟨⟨⟩, -, linked⟩ := bind_ok_iff.mp linked
  obtain ⟨⟨⟩, -, linked⟩ := bind_ok_iff.mp linked
  cases linked
  rcases FieldDescriptor.resolveType_ok resolved with ⟨untyped, rfl⟩ | ⟨_, _, -, -, enum | message⟩
  · -- without a name the kind is the one that the field gives, or else a number
    cases said : f.type.bind Kind.ofNumber? with
    | none => simp [FieldDecl.Untyped]
    | some kind =>
      have scalar := named.scalar untyped said
      simp only [List.mem_cons, List.not_mem_nil, or_false, not_or] at scalar
      simp [FieldDecl.Untyped, scalar]
  · obtain ⟨e, held, -, kind⟩ := enum
    simp [FieldDecl.Untyped, held, kind]
  · obtain ⟨m, -, held, kind⟩ := message
    have other : r.kind ≠ .enum := by
      rintro same
      simp [same] at kind
    simp [FieldDecl.Untyped, held, other]

/-! ### Messages -/

theorem FieldDescriptor.check_namesType {f : FieldDescriptor} {c : Context}
    {oneofs : Option (List OneofDescriptor)} {before : List FieldDescriptor}
    (checked : f.check c oneofs before = .ok ()) : f.NamesType := by
  rw [check] at checked
  obtain ⟨⟨⟩, -, checked⟩ := bind_ok_iff.mp checked
  by_cases required : c.dialect = .proto3 ∧ f.label = some 2
  · dsimp only at checked
    rw [if_pos required] at checked
    cases checked
  · dsimp only at checked
    rw [if_neg required] at checked
    obtain ⟨⟨⟩, -, checked⟩ := bind_ok_iff.mp checked
    by_cases inferred : f.infersFeatures c = true
    · rw [if_pos inferred] at checked
      obtain ⟨⟨⟩, named, -⟩ := bind_ok_iff.mp checked
      exact ⟨_, named⟩
    · rw [if_neg inferred] at checked
      obtain ⟨⟨⟩, -, checked⟩ := bind_ok_iff.mp checked
      obtain ⟨⟨⟩, named, -⟩ := bind_ok_iff.mp checked
      exact ⟨_, named⟩

theorem checkFields_namesType {c : Context} {m : MessageParts} {before fields : List FieldDescriptor}
    (checked : checkFields c m before fields = .ok ()) : ∀ f ∈ fields, f.NamesType := by
  induction fields generalizing before with
  | nil => exact fun _ member => absurd member List.not_mem_nil
  | cons f rest ih =>
    rw [checkFields] at checked
    obtain ⟨⟨⟩, own, checked⟩ := bind_ok_iff.mp checked
    obtain ⟨⟨⟩, -, later⟩ := bind_ok_iff.mp checked
    exact List.forall_mem_cons.mpr ⟨FieldDescriptor.check_namesType own, ih later⟩

theorem MessageParts.check_namesType {m : MessageParts} {c : Context}
    (checked : m.check c = .ok ()) : ∀ f ∈ m.fields, f.NamesType := by
  obtain ⟨⟨⟩, -, checked⟩ := bind_ok_iff.mp checked
  obtain ⟨⟨⟩, fields, -⟩ := bind_ok_iff.mp checked
  exact checkFields_namesType fields

mutual

/-- The fields of a message that is declared and linked say what they hold, at any depth. The tables
of the two differ, since linking comes when all is declared. -/
theorem MessageDescriptor.link_typed : ∀ (m : MessageDescriptor) {c : Context}
    {table after whole : SymbolTable} {decl : MessageDecl}, m.declare c table = .ok after →
    m.link whole c = .ok decl → ∀ n ∈ decl.all, n.FieldsTyped
  | ⟨m, messages⟩, c, table, after, whole, decl, declared, linked => by
    rw [MessageDescriptor.declare] at declared
    obtain ⟨own, -, declared⟩ := bind_ok_iff.mp declared
    obtain ⟨⟨⟩, -, declared⟩ := bind_ok_iff.mp declared
    obtain ⟨⟨⟩, checked, declared⟩ := bind_ok_iff.mp declared
    obtain ⟨withEnums, -, declared⟩ := bind_ok_iff.mp declared
    obtain ⟨withExtensions, -, declared⟩ := bind_ok_iff.mp declared
    obtain ⟨made, nested, -, -⟩ := MessageDescriptor.link_ok linked
    rw [decl.all_eq]
    refine List.forall_mem_cons.mpr ⟨fun f member => ?_, linkMessages_typed messages declared nested⟩
    obtain ⟨descriptor, field, one⟩ := mapM_ok_origin made f member
    exact FieldDescriptor.link_typed (MessageParts.check_namesType checked descriptor field) one

theorem linkMessages_typed : ∀ (messages : List MessageDescriptor) {c : Context}
    {table after whole : SymbolTable} {decls : List MessageDecl},
    declareMessages c table messages = .ok after → linkMessages whole c messages = .ok decls →
    ∀ n ∈ allMessages decls, n.FieldsTyped
  | [], _, _, _, _, _, _, linked => by
    cases linked
    rw [allMessages]
    nofun
  | m :: rest, c, table, after, whole, decls, declared, linked => by
    rw [declareMessages] at declared
    obtain ⟨next, first, others⟩ := bind_ok_iff.mp declared
    rw [linkMessages] at linked
    obtain ⟨decl, here, linked⟩ := bind_ok_iff.mp linked
    obtain ⟨decls, later, linked⟩ := bind_ok_iff.mp linked
    cases linked
    rw [allMessages]
    exact List.forall_mem_append.mpr ⟨m.link_typed first here, linkMessages_typed rest others later⟩

end

/-! ### Pools -/

/-- Whether the fields of all messages of a file say what they hold. -/
def SchemaFile.FieldsTyped (f : SchemaFile) : Prop := ∀ m ∈ allMessages f.messages, m.FieldsTyped

def Pool.FieldsTyped (p : Pool) : Prop := ∀ entry ∈ p.files, entry.2.FieldsTyped

theorem Pool.fieldsTyped_empty : ({} : Pool).FieldsTyped :=
  fun _ member => absurd member List.not_mem_nil

theorem Pool.FieldsTyped.link {p next : Pool} {f : FileDescriptor} {file : SchemaFile}
    (typed : p.FieldsTyped) (linked : p.link f = .ok (file, next)) : next.FieldsTyped := by
  rcases Pool.link_ok linked with ⟨-, rfl⟩ |
    ⟨c, t₁, t₂, t₃, known, -, -, declared, -, nested, -, -, -, -, grown⟩
  · exact typed
  · have own : file.FieldsTyped := linkMessages_typed _ declared nested
    intro entry member
    rw [grown] at member
    rcases List.mem_append.mp member with old | new
    · exact typed entry old
    · obtain rfl := List.mem_singleton.mp new
      exact own

/-- Every field of a loaded schema says what it holds. -/
theorem loadFiles_fieldsTyped {descriptors : List FileDescriptor} {wanted : List Text.Raw}
    {stack : Stack} {files : List SchemaFile} (loaded : loadFiles descriptors wanted stack = .ok files) :
    ∀ m ∈ declaredMessages files, m.FieldsTyped := by
  obtain ⟨linked, done, -, -, rfl⟩ := loadFiles_ok_iff.mp loaded
  obtain ⟨last, typed, -, listed, -⟩ :=
    linkAll_invariant (fun _ _ _ _ held => Pool.FieldsTyped.link held) Pool.fieldsTyped_empty done
  intro m member
  obtain ⟨f, file, inside⟩ := List.mem_flatMap.mp member
  obtain ⟨original, here, rfl⟩ := List.mem_map.mp file
  obtain ⟨known, held⟩ := listed original here
  exact typed _ held m inside

end RpcBindings.Schema
