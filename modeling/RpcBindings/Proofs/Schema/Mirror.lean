import RpcBindings.Proofs.Schema.Declared

/-! Linked files mirror their descriptors. Each declaration of a descriptor stands in the linked file,
at the same place among the same others, with what the descriptor says of it; nothing else stands
there. A file that is linked twice mirrors its second descriptor as well as the first. -/
namespace RpcBindings.Schema

open Outcome

/-! ### Mirrors -/

/-- Whether a field is as its descriptor says. Features may require a field that is not said to be. -/
structure FieldDescriptor.Mirrors (f : FieldDescriptor) (d : FieldDecl) : Prop where
  name : d.name = f.title
  number : d.number = f.index
  repeated : d.cardinality = .repeated ↔ f.label.bind Cardinality.ofNumber? = some .repeated
  required : f.label.bind Cardinality.ofNumber? = some .required → d.cardinality = .required
  scalar : f.typeName = none → d.enum = none ∧ d.message = none ∧
    ∀ kind, f.type.bind Kind.ofNumber? = some kind → kind ∉ [.group, .message] → d.kind = some kind
  named : f.typeName ≠ none →
    (∃ e, d.enum = some e ∧ d.message = none ∧ d.kind = some .enum) ∨
      ∃ m kind, d.enum = none ∧ d.message = some m ∧ kind ∈ [.group, .message] ∧ d.kind = some kind

structure EnumDescriptor.Mirrors (scope : String) (e : EnumDescriptor) (d : EnumDecl) : Prop where
  name : d.name = e.title
  fullName : d.fullName = qualify scope e.title
  values : d.values = e.values.map fun v => ⟨v.title, v.number.getD 0⟩

/-- Whether a message is as its descriptor says, without the messages inside it. -/
structure MessageParts.Mirrors (scope : String) (m : MessageParts) (d : MessageDecl) : Prop where
  name : d.name = m.title
  fullName : d.fullName = qualify scope m.title
  isMapEntry : d.isMapEntry = m.isMapEntry
  fields : List.Forall₂ FieldDescriptor.Mirrors m.fields d.fields
  enums : List.Forall₂ (EnumDescriptor.Mirrors d.fullName) m.enums d.enums

mutual

def MessageDescriptor.Mirrors (scope : String) : MessageDescriptor → MessageDecl → Prop
  | ⟨m, messages⟩, d => m.Mirrors scope d ∧ messagesMirror d.fullName messages d.messages

def messagesMirror (scope : String) : List MessageDescriptor → List MessageDecl → Prop
  | [], decls => decls = []
  | m :: rest, decls => ∃ d later, decls = d :: later ∧ m.Mirrors scope d ∧ messagesMirror scope rest later

end

structure MethodDescriptor.Mirrors (m : MethodDescriptor) (d : MethodDecl) : Prop where
  name : d.name = m.title
  serverStreaming : d.serverStreaming = m.serverStreaming.getD false

structure ServiceDescriptor.Mirrors (scope : String) (s : ServiceDescriptor) (d : ServiceDecl) : Prop where
  name : d.name = s.title
  fullName : d.fullName = qualify scope s.title
  methods : List.Forall₂ MethodDescriptor.Mirrors s.methods d.methods

/-- Whether a file is as its descriptor says. -/
structure FileDescriptor.Mirrors (f : FileDescriptor) (d : SchemaFile) : Prop where
  package : d.package = f.package.getD ""
  enums : List.Forall₂ (EnumDescriptor.Mirrors d.package) f.enums d.enums
  messages : messagesMirror d.package f.messages d.messages
  services : List.Forall₂ (ServiceDescriptor.Mirrors d.package) f.services d.services

/-! ### Fields -/

/-- What a resolved type comes to. -/
theorem FieldDescriptor.resolveType_ok {f : FieldDescriptor} {table : SymbolTable} {c : Context}
    {r : Resolved} (resolved : f.resolveType table c = .ok r) :
    (f.typeName = none ∧ r = ⟨(f.type.bind Kind.ofNumber?).getD .double, none, none, none⟩) ∨
      ∃ name fullName, f.typeName = some name ∧ r.fullName = some fullName ∧
        ((∃ e, r.enum = some e ∧ r.message = none ∧ r.kind = .enum) ∨
          ∃ m, r.enum = none ∧ r.message = some m ∧ r.kind ∈ [.group, .message]) := by
  unfold resolveType at resolved
  split at resolved
  case h_1 untyped =>
    cases resolved
    exact .inl ⟨untyped, rfl⟩
  case h_2 name typed =>
    obtain ⟨⟨fullName, symbol⟩, found, resolved⟩ := bind_ok_iff.mp resolved
    refine .inr ⟨name, fullName, typed, ?_⟩
    dsimp only at resolved
    split at resolved
    case h_2 m _ =>
      cases resolved
      refine ⟨rfl, .inr ⟨m, rfl, rfl, ?_⟩⟩
      dsimp only [Resolved.ofMessage]
      split <;> simp
    case h_4 e _ =>
      cases resolved
      exact ⟨rfl, .inl ⟨e, rfl, rfl, rfl⟩⟩
    all_goals cases resolved

section

variable {table : SymbolTable} {c : Context}

theorem FieldDescriptor.cardinality_repeated (f : FieldDescriptor) (c : Context) :
    f.cardinality c = .repeated ↔ f.label.bind Cardinality.ofNumber? = some .repeated := by
  unfold cardinality
  cases said : f.label.bind Cardinality.ofNumber? with
  | none => simp; split <;> simp
  | some cardinality =>
    cases cardinality with
    | optional => simp; split <;> simp
    | required => simp
    | repeated => simp

theorem FieldDescriptor.cardinality_required {f : FieldDescriptor}
    (said : f.label.bind Cardinality.ofNumber? = some .required) : f.cardinality c = .required := by
  rw [cardinality, said]
  rfl

theorem writtenLabel_repeated (c : Context) (cardinality : Cardinality) :
    Cardinality.ofNumber? (writtenLabel c cardinality) = some .repeated ↔ cardinality = .repeated := by
  cases cardinality with
  | optional => simp [writtenLabel, Cardinality.ofNumber?]
  | required =>
    unfold writtenLabel
    dsimp only
    split <;> simp [Cardinality.ofNumber?]
  | repeated => simp [writtenLabel, Cardinality.ofNumber?]

theorem writtenLabel_required {c : Context} {cardinality : Cardinality}
    (written : Cardinality.ofNumber? (writtenLabel c cardinality) = some .required) :
    cardinality = .required := by
  cases cardinality with
  | required => rfl
  | optional => simp [writtenLabel, Cardinality.ofNumber?] at written
  | repeated => simp [writtenLabel, Cardinality.ofNumber?] at written

theorem writtenKind_of_scalar {c : Context} {kind written : Kind} (same : writtenKind c kind = written)
    (scalar : written ∉ [.group, .message]) : kind = written := by
  subst same
  unfold writtenKind at scalar ⊢
  split at scalar
  · simp at scalar
  · rw [if_neg ‹_›]

/-- A field that is linked mirrors its descriptor, and so it does the descriptor written out. -/
theorem FieldDescriptor.link_mirrors {f : FieldDescriptor} {oneofs : List OneofDescriptor}
    {d : FieldDecl} (linked : f.link table c oneofs = .ok d) :
    f.Mirrors d ∧ (f.writtenOut table (c.ofField oneofs f)).Mirrors d := by
  obtain ⟨r, resolved, linked⟩ := bind_ok_iff.mp linked
  obtain ⟨⟨⟩, -, linked⟩ := bind_ok_iff.mp linked
  obtain ⟨⟨⟩, -, linked⟩ := bind_ok_iff.mp linked
  cases linked
  have label := (writtenLabel_repeated (c.ofField oneofs f) (f.cardinality (c.ofField oneofs f))).symm
  rw [writtenOut, resolved]
  rcases FieldDescriptor.resolveType_ok resolved with ⟨untyped, rfl⟩ | ⟨name, fullName, typed, full, one⟩
  · refine ⟨⟨rfl, rfl, f.cardinality_repeated _, cardinality_required, fun _ => ⟨rfl, rfl, ?_⟩,
      fun typed => absurd untyped typed⟩, ⟨rfl, rfl, label, writtenLabel_required, fun _ => ⟨rfl, rfl, ?_⟩,
      fun typed => absurd rfl typed⟩⟩
    · intro kind said _
      rw [said]
      rfl
    · intro kind said scalar
      have same := (Kind.ofNumber?_number _).symm.trans said
      exact congrArg some (writtenKind_of_scalar (Option.some.inj same) scalar)
  · have named : (∃ e, r.enum = some e ∧ r.message.map (·.ref) = none ∧ some r.kind = some .enum) ∨
        ∃ m kind, r.enum = none ∧ r.message.map (·.ref) = some m ∧ kind ∈ [.group, .message] ∧
          some r.kind = some kind := by
      rcases one with ⟨e, enum, message, kind⟩ | ⟨m, enum, message, kind⟩
      · exact .inl ⟨e, enum, by rw [message]; rfl, by rw [kind]⟩
      · exact .inr ⟨m.ref, r.kind, enum, by rw [message]; rfl, kind, rfl⟩
    refine ⟨⟨rfl, rfl, f.cardinality_repeated _, cardinality_required, fun untyped => ?_, fun _ => named⟩,
      ⟨rfl, rfl, label, writtenLabel_required, fun untyped => ?_, fun _ => named⟩⟩
    · rw [typed] at untyped
      cases untyped
    · simp [full] at untyped

/-! ### Enums and messages -/

theorem EnumDescriptor.decl_mirrors (e : EnumDescriptor) (c : Context) :
    e.Mirrors c.scope (e.decl c) ∧ e.writtenOut.Mirrors c.scope (e.decl c) := by
  refine ⟨⟨rfl, rfl, rfl⟩, ⟨rfl, rfl, ?_⟩⟩
  rw [EnumDescriptor.writtenOut, List.map_map]
  rfl

theorem enums_mirror (c : Context) (row : List EnumDescriptor) :
    List.Forall₂ (EnumDescriptor.Mirrors c.scope) row (row.map (·.decl c)) ∧
      List.Forall₂ (EnumDescriptor.Mirrors c.scope) (row.map (·.writtenOut)) (row.map (·.decl c)) := by
  rw [List.forall₂_map_left_iff, List.forall₂_map_right_iff, List.forall₂_map_right_iff,
    List.forall₂_same, List.forall₂_same]
  exact ⟨fun e _ => (e.decl_mirrors c).1, fun e _ => (e.decl_mirrors c).2⟩

theorem MessageDescriptor.link_isMapEntry {parts : MessageParts} {messages : List MessageDescriptor}
    {d : MessageDecl} (linked : MessageDescriptor.link table c ⟨parts, messages⟩ = .ok d) :
    d.isMapEntry = parts.isMapEntry := by
  rw [MessageDescriptor.link] at linked
  obtain ⟨fields, -, linked⟩ := bind_ok_iff.mp linked
  obtain ⟨⟨⟩, -, linked⟩ := bind_ok_iff.mp linked
  obtain ⟨inner, -, linked⟩ := bind_ok_iff.mp linked
  dsimp only at linked
  split at linked
  · obtain ⟨⟨⟩, -, linked⟩ := bind_ok_iff.mp linked
    cases linked
    rfl
  · cases linked
    rfl

theorem MessageParts.link_mirrors {parts : MessageParts} {messages : List MessageDescriptor}
    {d : MessageDecl} (linked : MessageDescriptor.link table c ⟨parts, messages⟩ = .ok d) :
    parts.Mirrors c.scope d ∧ (parts.writtenOut table (c.inside parts)).Mirrors c.scope d := by
  obtain ⟨made, -, same, decls⟩ := MessageDescriptor.link_ok linked
  have isMapEntry := MessageDescriptor.link_isMapEntry linked
  have name : d.name = parts.title := congrArg MessageRef.name same
  have fullName : d.fullName = qualify c.scope parts.title := congrArg MessageRef.fullName same
  obtain ⟨enums, writtenEnums⟩ := enums_mirror (c.inside parts) parts.enums
  rw [← decls, show (c.inside parts).scope = d.fullName from fullName.symm] at enums writtenEnums
  have fields := mapM_ok_iff.mp made
  have writtenFields : List.Forall₂ FieldDescriptor.Mirrors
      (parts.writtenOut table (c.inside parts)).fields d.fields := by
    rw [MessageParts.writtenOut, List.forall₂_map_left_iff]
    exact fields.imp fun _ _ one => (FieldDescriptor.link_mirrors one).2
  exact ⟨⟨name, fullName, isMapEntry, fields.imp fun _ _ one => (FieldDescriptor.link_mirrors one).1, enums⟩,
    ⟨name, fullName, isMapEntry, writtenFields, writtenEnums⟩⟩

mutual

/-- A message that is linked mirrors its descriptor, and so it does the descriptor written out. -/
theorem MessageDescriptor.link_mirrors : ∀ (m : MessageDescriptor) {c : Context} {d : MessageDecl},
    m.link table c = .ok d → m.Mirrors c.scope d ∧ (m.writtenOut table c).Mirrors c.scope d
  | ⟨m, messages⟩, c, d, linked => by
    obtain ⟨-, nested, same, -⟩ := MessageDescriptor.link_ok linked
    have inside : (c.inside m).scope = d.fullName := (congrArg MessageRef.fullName same).symm
    obtain ⟨own, written⟩ := MessageParts.link_mirrors linked
    have inner := linkMessages_mirrors messages nested
    rw [inside] at inner
    rw [MessageDescriptor.writtenOut, MessageDescriptor.Mirrors, MessageDescriptor.Mirrors]
    exact ⟨⟨own, inner.1⟩, written, inner.2⟩

theorem linkMessages_mirrors : ∀ (messages : List MessageDescriptor) {c : Context}
    {decls : List MessageDecl}, linkMessages table c messages = .ok decls →
    messagesMirror c.scope messages decls ∧
      messagesMirror c.scope (messagesWrittenOut table c messages) decls
  | [], c, decls, linked => by
    cases linked
    rw [messagesWrittenOut, messagesMirror]
    exact ⟨rfl, rfl⟩
  | m :: rest, c, decls, linked => by
    rw [linkMessages] at linked
    obtain ⟨d, here, linked⟩ := bind_ok_iff.mp linked
    obtain ⟨others, later, linked⟩ := bind_ok_iff.mp linked
    cases linked
    obtain ⟨own, written⟩ := m.link_mirrors here
    obtain ⟨ownRest, writtenRest⟩ := linkMessages_mirrors rest later
    rw [messagesWrittenOut, messagesMirror, messagesMirror]
    exact ⟨⟨d, others, rfl, own, ownRest⟩, d, others, rfl, written, writtenRest⟩

end

/-! ### Services and files -/

theorem MethodDescriptor.link_mirrors {m : MethodDescriptor} {service : String} {d : MethodDecl}
    (linked : m.link table c service = .ok d) : m.Mirrors d := by
  obtain ⟨⟨⟩, -, linked⟩ := bind_ok_iff.mp linked
  obtain ⟨⟨⟩, -, linked⟩ := bind_ok_iff.mp linked
  obtain ⟨input, -, linked⟩ := bind_ok_iff.mp linked
  obtain ⟨output, -, linked⟩ := bind_ok_iff.mp linked
  cases linked
  exact ⟨rfl, rfl⟩

theorem onlyTrue_getD (flag : Option Bool) : (onlyTrue flag).getD false = flag.getD false := by
  cases flag with
  | none => rfl
  | some b => cases b <;> rfl

/-- A service that mirrors its descriptor mirrors it written out, whatever its names stand for. -/
theorem ServiceDescriptor.Mirrors.writtenOut {s : ServiceDescriptor} {d : ServiceDecl}
    (mirrors : s.Mirrors c.scope d) (table : SymbolTable) : (s.writtenOut table c).Mirrors c.scope d where
  name := mirrors.name
  fullName := mirrors.fullName
  methods := by
    rw [ServiceDescriptor.writtenOut, List.forall₂_map_left_iff]
    refine mirrors.methods.imp fun m method own => ⟨own.name, ?_⟩
    rw [own.serverStreaming, onlyTrue_getD]

theorem declareServices_mirrors {after : SymbolTable} {row : List ServiceDescriptor}
    {services : List ServiceDecl} (done : declareServices c table row = .ok (services, after)) :
    List.Forall₂ (ServiceDescriptor.Mirrors c.scope) row services := by
  induction row generalizing table services with
  | nil =>
    cases done
    exact .nil
  | cons s row ih =>
    obtain ⟨⟨service, next⟩, here, done⟩ := bind_ok_iff.mp done
    obtain ⟨⟨rest, last⟩, later, done⟩ := bind_ok_iff.mp done
    cases done
    obtain ⟨own, -, here⟩ := bind_ok_iff.mp here
    obtain ⟨methods, linked, here⟩ := bind_ok_iff.mp here
    obtain ⟨⟨⟩, -, here⟩ := bind_ok_iff.mp here
    cases here
    exact .cons ⟨rfl, rfl, (mapM_ok_iff.mp linked).imp fun _ _ => MethodDescriptor.link_mirrors⟩ (ih later)

end

mutual

theorem MessageDescriptor.eq_of_same : ∀ (m n : MessageDescriptor), m.same n = true → m = n
  | ⟨parts, messages⟩, ⟨otherParts, others⟩, same => by
    rw [MessageDescriptor.same, Bool.and_eq_true, beq_iff_eq] at same
    rw [same.1, eq_of_sameMessages messages others same.2]

theorem eq_of_sameMessages : ∀ (row others : List MessageDescriptor),
    sameMessages row others = true → row = others
  | [], [], _ => rfl
  | m :: row, n :: others, same => by
    rw [sameMessages, Bool.and_eq_true] at same
    rw [m.eq_of_same n same.1, eq_of_sameMessages row others same.2]
  | [], _ :: _, same => by
    rw [sameMessages] at same
    · cases same
    all_goals simp
  | _ :: _, [], same => by
    rw [sameMessages] at same
    · cases same
    all_goals simp

end

theorem FileDescriptor.Mirrors.of_same {f g : FileDescriptor} {file : SchemaFile}
    (mirrors : f.Mirrors file) (same : f.same g = true) : g.Mirrors file := by
  simp only [FileDescriptor.same, Bool.and_eq_true, beq_iff_eq] at same
  obtain ⟨⟨⟨⟨⟨⟨⟨⟨⟨⟨⟨⟨⟨-, package⟩, -⟩, -⟩, -⟩, -⟩, messages⟩, enums⟩, services⟩, -⟩, -⟩, -⟩, -⟩, -⟩ := same
  exact ⟨package ▸ mirrors.package, enums ▸ mirrors.enums,
    eq_of_sameMessages _ _ messages ▸ mirrors.messages, services ▸ mirrors.services⟩

theorem FileDescriptor.Mirrors.mark {f : FileDescriptor} {file : SchemaFile} (mirrors : f.Mirrors file)
    (generate : Bool) : f.Mirrors { file with generate } :=
  ⟨mirrors.package, mirrors.enums, mirrors.messages, mirrors.services⟩

/-- Whether each file of a pool mirrors its descriptor written out. -/
def Pool.Mirrored (p : Pool) : Prop := ∀ entry ∈ p.files, entry.1.Mirrors entry.2

theorem Pool.mirrored_empty : ({} : Pool).Mirrored := fun _ member => absurd member List.not_mem_nil

theorem Pool.Mirrored.link {p next : Pool} {f : FileDescriptor} {file : SchemaFile}
    (mirrored : p.Mirrored) (linked : p.link f = .ok (file, next)) : f.Mirrors file ∧ next.Mirrored := by
  cases Pool.link_step linked with
  | known held same =>
    exact ⟨(mirrored _ (List.mem_of_find?_eq_some held)).of_same same, mirrored⟩
  | @new dialect t₁ t₂ t₃ t₄ services messages _ _ _ _ _ _ served nested =>
    have package : (f.context dialect).package = f.package.getD "" := Context.under_package _ _
    have scope : (f.context dialect).scope = f.package.getD "" := Context.under_scope _ _
    have inside : (f.context dialect).scope = (f.context dialect).package := scope.trans package.symm
    obtain ⟨enums, writtenEnums⟩ := enums_mirror (f.context dialect) f.enums
    obtain ⟨own, written⟩ := linkMessages_mirrors f.messages nested
    have methods := declareServices_mirrors served
    have writtenServices : List.Forall₂ (ServiceDescriptor.Mirrors (f.context dialect).scope)
        (f.writtenOut t₄ (f.context dialect)).services services := by
      rw [FileDescriptor.writtenOut, List.forall₂_map_left_iff]
      exact methods.imp fun _ _ one => one.writtenOut t₄
    have writtenPackage : (f.context dialect).package =
        (f.writtenOut t₄ (f.context dialect)).package.getD "" := by
      rw [FileDescriptor.writtenOut]
      dsimp only
      split <;> simp_all
    rw [inside] at enums writtenEnums own written methods writtenServices
    refine ⟨⟨package, enums, own, methods⟩, List.forall_mem_append.mpr ⟨mirrored, ?_⟩⟩
    exact List.forall_mem_singleton.mpr ⟨writtenPackage, writtenEnums, written, writtenServices⟩

/-- Files that are linked mirror their descriptors, one by one. -/
theorem Pool.Mirrored.linkAll {p : Pool} {descriptors : List FileDescriptor} {files : List SchemaFile}
    (mirrored : p.Mirrored) (linked : linkAll p descriptors = .ok files) :
    List.Forall₂ FileDescriptor.Mirrors descriptors files := by
  induction descriptors generalizing p files with
  | nil =>
    cases linked
    exact .nil
  | cons f rest ih =>
    obtain ⟨file, next, later, here, done, rfl⟩ := linkAll_cons_ok linked
    obtain ⟨own, grown⟩ := mirrored.link here
    exact .cons own (ih grown done)

end RpcBindings.Schema
