import Mathlib.Data.List.Flatten
import RpcBindings.Proofs.Schema.Declared
import RpcBindings.Proofs.Schema.View

/-! Full names are unique. A declaration enters the table of names only under a name that is not in
it, and linked files hold what entered it, in the same order; so no two declarations of linked files
share a full name, and all that they refer to is among them. -/
namespace RpcBindings.Schema

open Outcome

/-! ### What files declare, in order -/

/-- What a message declares by itself: the message and its enums. -/
def MessageDecl.declarations (m : MessageDecl) : List Declaration :=
  .message m.ref :: m.enums.map .enum

/-- All that a file declares. -/
def SchemaFile.declarations (f : SchemaFile) : List Declaration :=
  f.enums.map .enum ++ (allMessages f.messages).flatMap (·.declarations)

mutual

/-- What a descriptor of a message declares, itself and inside. -/
def MessageDescriptor.introduced (c : Context) : MessageDescriptor → List Declaration
  | ⟨m, messages⟩ =>
    .message (m.ref c) :: (m.enums.map fun e => .enum (e.decl (c.inside m))) ++
      messagesIntroduced (c.inside m) messages

def messagesIntroduced (c : Context) : List MessageDescriptor → List Declaration
  | [] => []
  | m :: rest => m.introduced c ++ messagesIntroduced c rest

end

def FileDescriptor.introduced (f : FileDescriptor) (c : Context) : List Declaration :=
  (f.enums.map fun e => .enum (e.decl c)) ++ messagesIntroduced c f.messages

mutual

theorem MessageDescriptor.introduces_of_mem : ∀ (m : MessageDescriptor) {c : Context} {d : Declaration},
    d ∈ m.introduced c → ∃ scope, m.Introduces c scope d
  | ⟨m, messages⟩, c, d, member => by
    rw [MessageDescriptor.introduced, List.mem_append, List.mem_cons, List.mem_map] at member
    rcases member with (rfl | ⟨e, listed, rfl⟩) | inner
    · exact ⟨_, .self⟩
    · exact ⟨_, .enum listed⟩
    · obtain ⟨n, listed, scope, introduced⟩ := introduces_of_mem_messages messages inner
      exact ⟨scope, .inner listed introduced⟩

theorem introduces_of_mem_messages : ∀ (messages : List MessageDescriptor) {c : Context}
    {d : Declaration}, d ∈ messagesIntroduced c messages →
    ∃ m ∈ messages, ∃ scope, m.Introduces c scope d
  | [], _, _, member => by
    rw [messagesIntroduced] at member
    cases member
  | m :: rest, c, d, member => by
    rw [messagesIntroduced, List.mem_append] at member
    rcases member with here | later
    · exact ⟨m, List.mem_cons_self, m.introduces_of_mem here⟩
    · obtain ⟨n, listed, introduced⟩ := introduces_of_mem_messages rest later
      exact ⟨n, List.mem_cons_of_mem _ listed, introduced⟩

end

theorem FileDescriptor.introduces_of_mem {f : FileDescriptor} {c : Context} {d : Declaration}
    (member : d ∈ f.introduced c) : ∃ scope, f.Introduces c scope d := by
  rw [introduced, List.mem_append, List.mem_map] at member
  rcases member with ⟨e, listed, rfl⟩ | inner
  · exact ⟨_, .enum listed⟩
  · obtain ⟨m, listed, scope, here⟩ := introduces_of_mem_messages _ inner
    exact ⟨scope, .message listed here⟩

mutual

/-- A linked message declares what its descriptor does. -/
theorem MessageDescriptor.link_declarations : ∀ (m : MessageDescriptor) {table : SymbolTable}
    {c : Context} {decl : MessageDecl}, m.link table c = .ok decl →
    decl.all.flatMap (·.declarations) = m.introduced c
  | ⟨m, messages⟩, table, c, decl, linked => by
    obtain ⟨-, nested, same, enums⟩ := MessageDescriptor.link_ok linked
    rw [decl.all_eq, List.flatMap_cons, linkMessages_declarations messages nested,
      MessageDecl.declarations, same, enums, MessageDescriptor.introduced, List.map_map]
    rfl

theorem linkMessages_declarations : ∀ (messages : List MessageDescriptor) {table : SymbolTable}
    {c : Context} {decls : List MessageDecl}, linkMessages table c messages = .ok decls →
    (allMessages decls).flatMap (·.declarations) = messagesIntroduced c messages
  | [], _, _, _, linked => by
    cases linked
    rfl
  | m :: rest, table, c, decls, linked => by
    rw [linkMessages] at linked
    obtain ⟨decl, here, linked⟩ := bind_ok_iff.mp linked
    obtain ⟨others, later, linked⟩ := bind_ok_iff.mp linked
    cases linked
    rw [allMessages, List.flatMap_append, m.link_declarations here,
      linkMessages_declarations rest later, messagesIntroduced]

end

/-! ### Declarations that join the table -/

namespace SymbolTable

/-- The types in a table, in the order in which they joined it. -/
def declared (table : SymbolTable) : List Declaration :=
  (table.filterMap (·.2.declaration?)).reverse

/-- Whether each type in a table is there under its full name, and under no other's. -/
structure Keyed (table : SymbolTable) : Prop where
  unique : (table.declared.map (·.fullName)).Nodup
  taken : ∀ d ∈ table.declared, (table.lookup d.fullName).isSome

/-- Whether a table holds, after the types of another one, some that are new. -/
structure Gains (before after : SymbolTable) (news : List Declaration) : Prop where
  declared : after.declared = before.declared ++ news
  keyed : before.Keyed → after.Keyed

theorem Gains.refl (table : SymbolTable) : table.Gains table [] :=
  ⟨(List.append_nil _).symm, id⟩

variable {table after last : SymbolTable} {news more : List Declaration}

theorem Gains.trans (first : table.Gains after news) (second : after.Gains last more) :
    table.Gains last (news ++ more) where
  declared := by rw [second.declared, first.declared, List.append_assoc]
  keyed held := second.keyed (first.keyed held)

theorem declared_cons (name : String) (symbol : Symbol) :
    SymbolTable.declared ((name, symbol) :: table) = table.declared ++ symbol.declaration?.toList := by
  cases found : symbol.declaration? with
  | none => simp [declared, found]
  | some d => simp [declared, found]

theorem gains_of_declare {scope name : String} {symbol : Symbol}
    (named : ∀ d ∈ symbol.declaration?, d.fullName = qualify scope name)
    (done : table.declare scope name symbol = .ok after) :
    table.Gains after symbol.declaration?.toList := by
  obtain ⟨⟨⟩, -, done⟩ := bind_ok_iff.mp done
  dsimp only at done
  split at done
  · cases done
  case isFalse absent =>
    cases done
    refine ⟨declared_cons _ _, fun held => ⟨?_, ?_⟩⟩
    · rw [declared_cons, List.map_append]
      cases found : symbol.declaration? with
      | none => simpa using held.unique
      | some d =>
        rw [Option.toList_some, List.map_singleton, ← List.concat_eq_append]
        refine List.Nodup.concat (fun member => absent ?_) held.unique
        obtain ⟨other, listed, same⟩ := List.mem_map.mp member
        rw [← named d found, ← show other.fullName = d.fullName from same]
        exact held.taken other listed
    · intro d member
      rw [List.lookup_cons]
      split
      · rfl
      case h_2 other =>
        rw [declared_cons, List.mem_append] at member
        rcases member with old | new
        · exact held.taken d old
        · have found : d ∈ symbol.declaration? := by simpa using new
          simp [named d found] at other

/-- What is no type joins a table without a type more. -/
theorem gains_of_other {scope name : String} (done : table.declare scope name .other = .ok after) :
    table.Gains after [] :=
  gains_of_declare (fun _ none => by cases none) done

theorem Gains.foldlM {α : Type} {row : List α} {step : SymbolTable → α → Except LinkError SymbolTable}
    {news : α → List Declaration}
    (each : ∀ x ∈ row, ∀ before after, step before x = .ok after → before.Gains after (news x))
    (done : row.foldlM step table = .ok after) : table.Gains after (row.flatMap news) := by
  induction row generalizing table with
  | nil =>
    cases done
    exact .refl _
  | cons x row ih =>
    obtain ⟨next, here, done⟩ := bind_ok_iff.mp done
    obtain ⟨first, later⟩ := List.forall_mem_cons.mp each
    rw [List.flatMap_cons]
    exact (first table next here).trans (ih later done)

theorem Gains.foldlM_nil {α : Type} {row : List α} {step : SymbolTable → α → Except LinkError SymbolTable}
    (each : ∀ x ∈ row, ∀ before after, step before x = .ok after → before.Gains after [])
    (done : row.foldlM step table = .ok after) : table.Gains after [] := by
  have none : row.flatMap (fun _ => ([] : List Declaration)) = [] :=
    List.flatMap_eq_nil_iff.mpr fun _ _ => rfl
  rw [← none]
  exact .foldlM each done

theorem declared_all (table : SymbolTable) : table.All (· ∈ table.declared) := by
  intro entry member d same
  rw [declared, List.mem_reverse, List.mem_filterMap]
  exact ⟨entry, member, same⟩

end SymbolTable

section

variable {table after : SymbolTable} {c : Context}

theorem EnumDescriptor.declare_gains {e : EnumDescriptor} (done : e.declare c table = .ok after) :
    table.Gains after [.enum (e.decl c)] := by
  obtain ⟨⟨⟩, -, done⟩ := bind_ok_iff.mp done
  obtain ⟨own, here, done⟩ := bind_ok_iff.mp done
  obtain ⟨full, values, done⟩ := bind_ok_iff.mp done
  obtain ⟨⟨⟩, -, done⟩ := bind_ok_iff.mp done
  obtain ⟨⟨⟩, -, done⟩ := bind_ok_iff.mp done
  cases done
  have first := SymbolTable.gains_of_declare (by rintro _ ⟨⟩; rfl) here
  have rest : own.Gains after [] := by
    refine .foldlM_nil (fun v _ before after step => ?_) values
    obtain ⟨⟨⟩, -, step⟩ := bind_ok_iff.mp step
    exact SymbolTable.gains_of_other step
  exact first.trans rest

theorem FieldDescriptor.declareExtension_gains {f : FieldDescriptor} {m : Option MessageParts}
    (done : f.declareExtension c m table = .ok after) : table.Gains after [] := by
  obtain ⟨⟨⟩, -, done⟩ := bind_ok_iff.mp done
  dsimp only at done
  split at done
  · cases done
  · exact SymbolTable.gains_of_other done

theorem gains_of_enums {row : List EnumDescriptor}
    (done : row.foldlM (fun table e => e.declare c table) table = .ok after) :
    table.Gains after (row.map fun e => .enum (e.decl c)) := by
  rw [List.map_eq_flatMap]
  exact .foldlM (fun e _ _ _ step => EnumDescriptor.declare_gains step) done

theorem gains_of_extensions {row : List FieldDescriptor} {m : Option MessageParts}
    (done : row.foldlM (fun table f => f.declareExtension c m table) table = .ok after) :
    table.Gains after [] :=
  .foldlM_nil (fun _ _ _ _ step => FieldDescriptor.declareExtension_gains step) done

mutual

theorem MessageDescriptor.declare_gains : ∀ (m : MessageDescriptor) {c : Context}
    {table after : SymbolTable}, m.declare c table = .ok after → table.Gains after (m.introduced c)
  | ⟨m, messages⟩, c, table, after, done => by
    rw [MessageDescriptor.declare] at done
    obtain ⟨own, here, done⟩ := bind_ok_iff.mp done
    obtain ⟨⟨⟩, -, done⟩ := bind_ok_iff.mp done
    obtain ⟨⟨⟩, -, done⟩ := bind_ok_iff.mp done
    obtain ⟨withEnums, enums, done⟩ := bind_ok_iff.mp done
    obtain ⟨withExtensions, extensions, done⟩ := bind_ok_iff.mp done
    have self : table.Gains own [.message (m.ref c)] :=
      SymbolTable.gains_of_declare (by rintro _ ⟨⟩; rfl) here
    have all := (((self.trans (gains_of_enums enums)).trans (gains_of_extensions extensions)).trans
      (declareMessages_gains messages done))
    rw [MessageDescriptor.introduced]
    simpa using all

theorem declareMessages_gains : ∀ (messages : List MessageDescriptor) {c : Context}
    {table after : SymbolTable}, declareMessages c table messages = .ok after →
    table.Gains after (messagesIntroduced c messages)
  | [], _, _, _, done => by
    cases done
    exact .refl _
  | m :: rest, c, table, after, done => by
    rw [declareMessages] at done
    obtain ⟨next, here, done⟩ := bind_ok_iff.mp done
    rw [messagesIntroduced]
    exact (m.declare_gains here).trans (declareMessages_gains rest done)

end

theorem declareServices_gains {row : List ServiceDescriptor} {services : List ServiceDecl}
    (done : declareServices c table row = .ok (services, after)) : table.Gains after [] := by
  induction row generalizing table services with
  | nil =>
    cases done
    exact .refl _
  | cons s row ih =>
    obtain ⟨⟨service, next⟩, here, done⟩ := bind_ok_iff.mp done
    obtain ⟨⟨rest, last⟩, later, done⟩ := bind_ok_iff.mp done
    cases done
    obtain ⟨first, -, -⟩ := ServiceDescriptor.declare_ok here
    exact (SymbolTable.gains_of_other first).trans (ih later)

end

/-! ### References -/

mutual

/-- A linked message refers to nothing but what is in the table, at any depth. -/
theorem MessageDescriptor.link_names {property : Declaration → Prop} : ∀ (m : MessageDescriptor)
    {table : SymbolTable} {c : Context} {decl : MessageDecl}, table.All property →
    m.link table c = .ok decl → ∀ n ∈ decl.all, ∀ f ∈ n.fields, ∀ d, f.Names d → property d
  | ⟨m, messages⟩, table, c, decl, all, linked => by
    obtain ⟨made, nested, -, -⟩ := MessageDescriptor.link_ok linked
    rw [decl.all_eq]
    refine List.forall_mem_cons.mpr ⟨fun f member => ?_, linkMessages_names messages all nested⟩
    obtain ⟨descriptor, -, one⟩ := mapM_ok_origin made f member
    exact FieldDescriptor.link_all all one

theorem linkMessages_names {property : Declaration → Prop} : ∀ (messages : List MessageDescriptor)
    {table : SymbolTable} {c : Context} {decls : List MessageDecl}, table.All property →
    linkMessages table c messages = .ok decls →
    ∀ n ∈ allMessages decls, ∀ f ∈ n.fields, ∀ d, f.Names d → property d
  | [], _, _, _, _, linked => by
    cases linked
    rw [allMessages]
    nofun
  | m :: rest, table, c, decls, all, linked => by
    rw [linkMessages] at linked
    obtain ⟨decl, here, linked⟩ := bind_ok_iff.mp linked
    obtain ⟨others, later, linked⟩ := bind_ok_iff.mp linked
    cases linked
    rw [allMessages]
    exact List.forall_mem_append.mpr ⟨m.link_names all here, linkMessages_names rest all later⟩

end

/-! ### Pools -/

/-- What holds of a pool: its files declare what is in its table, and refer to nothing else. -/
structure Pool.Registered (p : Pool) : Prop where
  keyed : p.table.Keyed
  declared : p.table.declared = p.files.flatMap (·.2.declarations)
  located : ∀ entry ∈ p.files, ∀ d ∈ entry.2.declarations,
    d.file = entry.2.name ∧ d.package = entry.2.package
  fields : ∀ entry ∈ p.files, ∀ m ∈ allMessages entry.2.messages, ∀ f ∈ m.fields, ∀ d, f.Names d →
    d ∈ p.table.declared
  methods : ∀ entry ∈ p.files, ∀ s ∈ entry.2.services, ∀ m ∈ s.methods,
    .message m.input ∈ p.table.declared ∧ .message m.output ∈ p.table.declared

theorem Pool.registered_empty : ({} : Pool).Registered where
  keyed := ⟨List.nodup_nil, fun _ member => absurd member List.not_mem_nil⟩
  declared := rfl
  located _ member := absurd member List.not_mem_nil
  fields _ member := absurd member List.not_mem_nil
  methods _ member := absurd member List.not_mem_nil

theorem Pool.Registered.link {p next : Pool} {f : FileDescriptor} {file : SchemaFile}
    (registered : p.Registered) (linked : p.link f = .ok (file, next)) : next.Registered := by
  rcases Pool.link_ok linked with ⟨-, rfl⟩ |
    ⟨c, t₁, t₂, t₃, known, enums, extensions, messages, services, nested, name, package, -, decls, files⟩
  · exact registered
  · have served := declareServices_gains services
    have gains : p.table.Gains next.table (f.introduced c) := by
      simpa [FileDescriptor.introduced] using
        (((gains_of_enums enums).trans (gains_of_extensions extensions)).trans
          (declareMessages_gains _ messages)).trans served
    have own : file.declarations = f.introduced c := by
      rw [SchemaFile.declarations, linkMessages_declarations _ nested, decls, List.map_map]
      rfl
    have old : p.table.declared ⊆ next.table.declared := by simp [gains.declared]
    have all : t₃.All (· ∈ next.table.declared) :=
      t₃.declared_all.imp fun d held => by simp [served.declared, held]
    refine ⟨gains.keyed registered.keyed, ?_, ?_, ?_, ?_⟩
    · rw [files, List.flatMap_append, ← registered.declared, gains.declared]
      simp [own]
    all_goals
      rw [files]
      refine List.forall_mem_append.mpr ⟨?_, List.forall_mem_singleton.mpr ?_⟩
    · exact registered.located
    · intro d member
      obtain ⟨scope, here⟩ := FileDescriptor.introduces_of_mem (own ▸ member)
      exact ⟨here.origin.1.trans name.symm, here.origin.2.1.trans package.symm⟩
    · exact fun entry member m inside field held d names =>
        old (registered.fields entry member m inside field held d names)
    · exact linkMessages_names _ next.table.declared_all nested
    · intro entry member s service m method
      obtain ⟨input, output⟩ := registered.methods entry member s service m method
      exact ⟨old input, old output⟩
    · exact (declareServices_all all services).2

/-- A pool keeps its files and has the one that is linked, and no other. -/
theorem Pool.link_grows {p next : Pool} {f : FileDescriptor} {file : SchemaFile}
    (linked : p.link f = .ok (file, next)) : p.files ⊆ next.files ∧
      (∃ known, (known, file) ∈ next.files) ∧ ∀ entry ∈ next.files, entry ∈ p.files ∨ entry.2 = file := by
  rcases Pool.link_ok linked with ⟨held, rfl⟩ | ⟨_, _, _, _, known, _, _, _, _, _, _, _, _, _, files⟩
  · exact ⟨fun _ old => old, held, fun _ old => .inl old⟩
  · rw [files]
    refine ⟨List.subset_append_left _ _, ⟨known, by simp⟩, fun entry member => ?_⟩
    rcases List.mem_append.mp member with old | new
    · exact .inl old
    · exact .inr (List.mem_singleton.mp new ▸ rfl)

/-- What linking a file keeps holds of a pool at the end, which has the files that are linked and those
that were there before. -/
theorem linkAll_invariant {invariant : Pool → Prop}
    (keeps : ∀ p f file next, invariant p → p.link f = .ok (file, next) → invariant next) {p : Pool}
    {descriptors : List FileDescriptor} {files : List SchemaFile} (start : invariant p)
    (linked : linkAll p descriptors = .ok files) :
    ∃ last : Pool, invariant last ∧ p.files ⊆ last.files ∧
      (∀ file ∈ files, ∃ known, (known, file) ∈ last.files) ∧
      ∀ entry ∈ last.files, entry ∈ p.files ∨ entry.2 ∈ files := by
  induction descriptors generalizing p files with
  | nil =>
    cases linked
    exact ⟨p, start, fun _ old => old, fun _ none => absurd none List.not_mem_nil, fun _ old => .inl old⟩
  | cons f rest ih =>
    obtain ⟨file, next, later, here, done, rfl⟩ := linkAll_cons_ok linked
    obtain ⟨last, final, more, listed, only⟩ := ih (keeps p f file next start here) done
    obtain ⟨grown, ⟨known, held⟩, new⟩ := Pool.link_grows here
    refine ⟨last, final, fun _ old => more (grown old),
      List.forall_mem_cons.mpr ⟨⟨known, more held⟩, listed⟩, fun entry member => ?_⟩
    rcases only entry member with held | found
    · rcases new entry held with old | rfl
      · exact .inl old
      · exact .inr List.mem_cons_self
    · exact .inr (List.mem_cons_of_mem _ found)

/-! ### Linked files -/

section

variable {files : List SchemaFile}

theorem message_mem_declarations {f : SchemaFile} {r : MessageRef} :
    .message r ∈ f.declarations ↔ ∃ m ∈ allMessages f.messages, m.ref = r := by
  simp [SchemaFile.declarations, MessageDecl.declarations, eq_comm]

theorem enum_mem_declarations {f : SchemaFile} {e : EnumDecl} :
    .enum e ∈ f.declarations ↔ e ∈ f.enums ∨ ∃ m ∈ allMessages f.messages, e ∈ m.enums := by
  simp [SchemaFile.declarations, MessageDecl.declarations]

theorem known_iff {r : MessageRef} : Known files r ↔ ∃ f ∈ files, .message r ∈ f.declarations := by
  simp only [Known, declaredMessages, List.mem_flatMap, message_mem_declarations]
  constructor
  · rintro ⟨m, ⟨f, file, listed⟩, same⟩
    exact ⟨f, file, m, listed, same⟩
  · rintro ⟨f, file, m, listed, same⟩
    exact ⟨m, ⟨f, file, listed⟩, same⟩

theorem mem_declaredEnums {e : EnumDecl} :
    e ∈ declaredEnums files ↔ ∃ f ∈ files, .enum e ∈ f.declarations := by
  simp [declaredEnums, enum_mem_declarations]

theorem names_sublist (messages : List MessageDecl) : (messages.map (·.fullName)).Sublist
    ((messages.flatMap (·.declarations)).map (·.fullName)) := by
  rw [List.map_flatMap, List.map_eq_flatMap]
  refine List.Sublist.flatMap_right messages fun m _ => List.singleton_sublist.mpr ?_
  exact List.mem_cons_self

theorem Pool.Registered.messages_nodup {p : Pool} (registered : p.Registered) :
    ((p.files.flatMap fun entry => allMessages entry.2.messages).map (·.fullName)).Nodup := by
  refine List.Nodup.sublist ?_ registered.keyed.unique
  rw [registered.declared, List.map_flatMap, List.map_flatMap]
  refine List.Sublist.flatMap_right _ fun entry _ => ?_
  rw [SchemaFile.declarations, List.map_append]
  exact List.sublist_append_of_sublist_right (names_sublist _)

/-- The files of a pool refer to what they declare, each under a full name of its own. -/
theorem Pool.Registered.coherent {p : Pool} (registered : p.Registered)
    (same : ∀ f, f ∈ files ↔ ∃ known, (known, f) ∈ p.files) : Coherent files := by
  have inside {d : Declaration} (member : d ∈ p.table.declared) : ∃ f ∈ files, d ∈ f.declarations := by
    rw [registered.declared, List.mem_flatMap] at member
    obtain ⟨entry, listed, held⟩ := member
    exact ⟨entry.2, (same _).mpr ⟨entry.1, listed⟩, held⟩
  have outside {f : SchemaFile} (member : f ∈ files) {d : Declaration} (held : d ∈ f.declarations) :
      d ∈ p.table.declared := by
    obtain ⟨known, listed⟩ := (same f).mp member
    rw [registered.declared, List.mem_flatMap]
    exact ⟨_, listed, held⟩
  have pooled {m : MessageDecl} (member : m ∈ declaredMessages files) :
      m ∈ p.files.flatMap fun entry => allMessages entry.2.messages := by
    obtain ⟨f, file, listed⟩ := List.mem_flatMap.mp member
    obtain ⟨known, held⟩ := (same f).mp file
    exact List.mem_flatMap.mpr ⟨_, held, listed⟩
  refine ⟨?_, ?_, ?_, ?_⟩
  · intro m first n second name
    exact List.inj_on_of_nodup_map registered.messages_nodup (pooled first) (pooled second) name
  · intro d first e second name
    obtain ⟨f, file, here⟩ := mem_declaredEnums.mp first
    obtain ⟨g, other, there⟩ := mem_declaredEnums.mp second
    have equal := List.inj_on_of_nodup_map registered.keyed.unique (outside file here)
      (outside other there) name
    exact Declaration.enum.inj equal
  · intro m member f field
    obtain ⟨file, listed, here⟩ := List.mem_flatMap.mp member
    obtain ⟨known, held⟩ := (same file).mp listed
    have names := registered.fields _ held m here f field
    exact ⟨fun e one => mem_declaredEnums.mpr (inside (names _ (.enum one))),
      fun r one => known_iff.mpr (inside (names _ (.message one)))⟩
  · intro f file s service m method
    obtain ⟨known, held⟩ := (same f).mp file
    obtain ⟨input, output⟩ := registered.methods _ held s service m method
    exact ⟨known_iff.mpr (inside input), known_iff.mpr (inside output)⟩

/-- Whether all that files declare says in which file and package it is declared. -/
def Located (files : List SchemaFile) : Prop :=
  ∀ f ∈ files, ∀ d ∈ f.declarations, d.file = f.name ∧ d.package = f.package

/-- Files that are linked refer to what they declare, each under a full name of its own. -/
theorem linkAll_coherent {descriptors : List FileDescriptor}
    (linked : linkAll {} descriptors = .ok files) : Coherent files ∧ Located files := by
  obtain ⟨last, registered, -, listed, only⟩ :=
    linkAll_invariant (fun _ _ _ _ held => held.link) Pool.registered_empty linked
  have same (f : SchemaFile) : f ∈ files ↔ ∃ known, (known, f) ∈ last.files := by
    refine ⟨listed f, fun ⟨known, held⟩ => ?_⟩
    exact (only _ held).resolve_left List.not_mem_nil
  refine ⟨registered.coherent same, fun f file => ?_⟩
  obtain ⟨known, held⟩ := listed f file
  exact registered.located _ held

variable (marks : SchemaFile → Bool)

/-- Marking files changes nothing in what they declare and refer to. -/
theorem Coherent.mark (coherent : Coherent files) :
    Coherent (files.map fun f => { f with generate := marks f }) := by
  have messages : declaredMessages (files.map fun f => { f with generate := marks f }) =
      declaredMessages files := by
    simp [declaredMessages, List.flatMap_map]
  have enums : declaredEnums (files.map fun f => { f with generate := marks f }) = declaredEnums files := by
    simp [declaredEnums, List.flatMap_map]
  have known : Known (files.map fun f => { f with generate := marks f }) = Known files := by
    funext r
    rw [Known, Known, messages]
  refine ⟨messages ▸ coherent.messages, enums ▸ coherent.enums, ?_, ?_⟩
  · rw [messages, enums, known]
    exact coherent.fields
  · rw [known]
    exact List.forall_mem_map.mpr coherent.methods

theorem Located.mark (located : Located files) :
    Located (files.map fun f => { f with generate := marks f }) :=
  List.forall_mem_map.mpr located

end

end RpcBindings.Schema
