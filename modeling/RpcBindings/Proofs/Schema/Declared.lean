import RpcBindings.Proofs.Entries
import RpcBindings.Proofs.Schema.Loading

/-! What a linked schema refers to is declared in it. A symbol enters the table of names with its
declaration, names are only resolved to symbols of the table, and the linked file holds all that its
descriptor declares; so every message and enum that a file refers to is declared in a loaded file. -/
namespace RpcBindings.Schema

open Outcome

/-- A type that a schema declares. -/
inductive Declaration where
  | message (m : MessageRef)
  | enum (e : EnumDecl)
  deriving DecidableEq, Repr

namespace Declaration

def name : Declaration → String
  | message m => m.name
  | enum e => e.name

def fullName : Declaration → String
  | message m => m.fullName
  | enum e => e.fullName

def file : Declaration → String
  | message m => m.file
  | enum e => e.file

def package : Declaration → String
  | message m => m.package
  | enum e => e.package

end Declaration

/-! ### What a linked file declares and refers to -/

/-- Whether a message in the scope `outer` is the declaration of a type or holds it, and in which
scope the type is declared. -/
inductive MessageDecl.Declares : (outer : String) → MessageDecl → (scope : String) → Declaration → Prop
  | self {outer m} : Declares outer m outer (.message m.ref)
  | enum {outer m e} : e ∈ m.enums → Declares outer m m.fullName (.enum e)
  | inner {outer m n scope d} : n ∈ m.messages → Declares m.fullName n scope d →
      Declares outer m scope d

/-- Whether a file declares a type in a scope. -/
inductive SchemaFile.Declares (f : SchemaFile) : (scope : String) → Declaration → Prop
  | enum {e} : e ∈ f.enums → f.Declares f.package (.enum e)
  | message {m scope d} : m ∈ f.messages → m.Declares f.package scope d → f.Declares scope d

/-- Whether a field is of a message or enum type. -/
inductive FieldDecl.Names (f : FieldDecl) : Declaration → Prop
  | enum {e} : f.enum = some e → f.Names (.enum e)
  | message {m} : f.message = some m → f.Names (.message m)

/-- Whether a file refers to a type, in a method or in a field of a message that lies in no other. -/
inductive SchemaFile.Names (f : SchemaFile) : Declaration → Prop
  | input {s m} : s ∈ f.services → m ∈ s.methods → f.Names (.message m.input)
  | output {s m} : s ∈ f.services → m ∈ s.methods → f.Names (.message m.output)
  | field {m field d} : m ∈ f.messages → field ∈ m.fields → field.Names d → f.Names d

/-- A type with the file that declares it: their names and packages match, and the scope qualifies
the name, which is one. -/
structure SchemaFile.Homes (f : SchemaFile) (scope : String) (d : Declaration) : Prop where
  declares : f.Declares scope d
  file : d.file = f.name
  package : d.package = f.package
  qualified : d.fullName = qualify scope d.name
  named : checkName d.name = .ok ()

/-! ### What a descriptor declares -/

/-- Whether a descriptor of a message declares a type, itself or inside, and in which scope. -/
inductive MessageDescriptor.Introduces : Context → MessageDescriptor → (scope : String) →
    Declaration → Prop
  | self {c m messages} : Introduces c ⟨m, messages⟩ c.scope (.message (m.ref c))
  | enum {c m messages e} : e ∈ m.enums →
      Introduces c ⟨m, messages⟩ (c.inside m).scope (.enum (e.decl (c.inside m)))
  | inner {c m messages n scope d} : n ∈ messages → n.Introduces (c.inside m) scope d →
      Introduces c ⟨m, messages⟩ scope d

inductive FileDescriptor.Introduces (f : FileDescriptor) (c : Context) :
    (scope : String) → Declaration → Prop
  | enum {e} : e ∈ f.enums → f.Introduces c c.scope (.enum (e.decl c))
  | message {m scope d} : m ∈ f.messages → m.Introduces c scope d → f.Introduces c scope d

theorem Context.under_file (c : Context) (options : Option DeclOptions) :
    (c.under options).file = c.file := by
  unfold Context.under
  split <;> rfl

theorem Context.under_package (c : Context) (options : Option DeclOptions) :
    (c.under options).package = c.package := by
  unfold Context.under
  split <;> rfl

theorem Context.under_scope (c : Context) (options : Option DeclOptions) :
    (c.under options).scope = c.scope := by
  unfold Context.under
  split <;> rfl

theorem Context.inside_file (c : Context) (m : MessageParts) : (c.inside m).file = c.file :=
  c.under_file m.options

theorem Context.inside_package (c : Context) (m : MessageParts) :
    (c.inside m).package = c.package :=
  c.under_package m.options

theorem MessageDescriptor.Introduces.origin {c : Context} {m : MessageDescriptor} {scope : String}
    {d : Declaration} (introduced : m.Introduces c scope d) :
    d.file = c.file ∧ d.package = c.package ∧ d.fullName = qualify scope d.name := by
  induction introduced with
  | self => exact ⟨rfl, rfl, rfl⟩
  | enum _ => exact ⟨Context.inside_file _ _, Context.inside_package _ _, rfl⟩
  | inner _ _ ih =>
    rw [Context.inside_file, Context.inside_package] at ih
    exact ih

theorem FileDescriptor.Introduces.origin {f : FileDescriptor} {c : Context} {scope : String}
    {d : Declaration} (introduced : f.Introduces c scope d) :
    d.file = c.file ∧ d.package = c.package ∧ d.fullName = qualify scope d.name := by
  cases introduced with
  | enum _ => exact ⟨rfl, rfl, rfl⟩
  | message _ introduced => exact introduced.origin

/-! ### Symbols in the table -/

/-- The type that a symbol stands for, if it stands for one. -/
def Symbol.declaration? : Symbol → Option Declaration
  | .message m => some (.message m.ref)
  | .enum e => some (.enum e)
  | .other => none

/-- Whether all types in a table have a property. -/
def SymbolTable.All (property : Declaration → Prop) (table : SymbolTable) : Prop :=
  ∀ entry ∈ table, ∀ d, entry.2.declaration? = some d → property d

variable {property : Declaration → Prop} {table after : SymbolTable} {c : Context}

theorem SymbolTable.All.declare (all : table.All property) {scope name : String} {symbol : Symbol}
    (fresh : checkName name = .ok () → ∀ d, symbol.declaration? = some d → property d)
    (declared : table.declare scope name symbol = .ok after) : after.All property := by
  obtain ⟨⟨⟩, named, declared⟩ := bind_ok_iff.mp declared
  dsimp only at declared
  split at declared
  · cases declared
  · cases declared
    exact List.forall_mem_cons.mpr ⟨fresh named, all⟩

/-- What holds of all types in a table holds after a row of steps that each keep it. -/
theorem SymbolTable.All.foldlM {α : Type} {row : List α}
    {step : SymbolTable → α → Except LinkError SymbolTable}
    (keeps : ∀ x ∈ row, ∀ before after : SymbolTable, before.All property →
      step before x = .ok after → after.All property)
    (all : table.All property) (done : row.foldlM step table = .ok after) : after.All property := by
  induction row generalizing table with
  | nil =>
    cases done
    exact all
  | cons x row ih =>
    obtain ⟨next, here, done⟩ := bind_ok_iff.mp done
    obtain ⟨first, later⟩ := List.forall_mem_cons.mp keeps
    exact ih later (first table next all here) done

theorem EnumDescriptor.declare_all {e : EnumDescriptor} (all : table.All property)
    (fresh : checkName e.title = .ok () → property (.enum (e.decl c)))
    (declared : e.declare c table = .ok after) : after.All property := by
  obtain ⟨⟨⟩, -, declared⟩ := bind_ok_iff.mp declared
  obtain ⟨own, here, declared⟩ := bind_ok_iff.mp declared
  obtain ⟨all', values, declared⟩ := bind_ok_iff.mp declared
  obtain ⟨⟨⟩, -, declared⟩ := bind_ok_iff.mp declared
  obtain ⟨⟨⟩, -, declared⟩ := bind_ok_iff.mp declared
  cases declared
  have first : own.All property :=
    all.declare (fun named d same => by cases same; exact fresh named) here
  refine first.foldlM (fun v _ before after all step => ?_) values
  obtain ⟨⟨⟩, -, step⟩ := bind_ok_iff.mp step
  exact all.declare (fun _ _ none => by cases none) step

theorem FieldDescriptor.declareExtension_all {f : FieldDescriptor} {m : Option MessageParts}
    (all : table.All property) (declared : f.declareExtension c m table = .ok after) :
    after.All property := by
  obtain ⟨⟨⟩, -, declared⟩ := bind_ok_iff.mp declared
  dsimp only at declared
  split at declared
  · cases declared
  · exact all.declare (fun _ _ none => by cases none) declared

mutual

theorem MessageDescriptor.declare_all (m : MessageDescriptor) {c : Context}
    {table after : SymbolTable} (all : table.All property)
    (fresh : ∀ scope d, m.Introduces c scope d → checkName d.name = .ok () → property d)
    (declared : m.declare c table = .ok after) : after.All property := by
  obtain ⟨parts, messages⟩ := m
  rw [MessageDescriptor.declare] at declared
  obtain ⟨own, here, declared⟩ := bind_ok_iff.mp declared
  obtain ⟨⟨⟩, -, declared⟩ := bind_ok_iff.mp declared
  obtain ⟨⟨⟩, -, declared⟩ := bind_ok_iff.mp declared
  obtain ⟨withEnums, enums, declared⟩ := bind_ok_iff.mp declared
  obtain ⟨withExtensions, extensions, declared⟩ := bind_ok_iff.mp declared
  have first : own.All property :=
    all.declare (fun named d same => by cases same; exact fresh _ _ .self named) here
  have second : withEnums.All property :=
    first.foldlM (fun e member _ _ all step =>
      EnumDescriptor.declare_all all (fun named => fresh _ _ (.enum member) named) step) enums
  have third : withExtensions.All property :=
    second.foldlM (fun _ _ _ _ all step =>
      FieldDescriptor.declareExtension_all all step) extensions
  exact declareMessages_all messages third
    (fun n member scope d introduced => fresh scope d (.inner member introduced)) declared

theorem declareMessages_all (messages : List MessageDescriptor) {c : Context}
    {table after : SymbolTable} (all : table.All property)
    (fresh : ∀ m ∈ messages, ∀ scope d, m.Introduces c scope d → checkName d.name = .ok () →
      property d)
    (declared : declareMessages c table messages = .ok after) : after.All property := by
  cases messages with
  | nil =>
    cases declared
    exact all
  | cons m rest =>
    rw [declareMessages] at declared
    obtain ⟨next, here, declared⟩ := bind_ok_iff.mp declared
    obtain ⟨own, later⟩ := List.forall_mem_cons.mp fresh
    exact declareMessages_all rest (MessageDescriptor.declare_all m all own here) later declared

end

/-! ### Names that are resolved -/

theorem mem_of_resolve {scope name fullName : String} {symbol : Symbol}
    (found : resolve table scope name = .ok (fullName, symbol)) : (fullName, symbol) ∈ table := by
  have declared (full : String)
      (listed : (table.lookup full).map (fun symbol => (full, symbol)) = some (fullName, symbol)) :
      (fullName, symbol) ∈ table := by
    obtain ⟨_, looked, same⟩ := Option.map_eq_some_iff.mp listed
    cases same
    exact mem_of_lookup looked
  unfold resolve at found
  split at found
  case h_2 => cases found
  case h_1 entry held =>
    cases found
    unfold resolve? at held
    split at held
    · exact declared _ held
    · obtain ⟨outer, -, listed⟩ := List.exists_of_findSome?_eq_some held
      exact declared _ listed

theorem resolveMessage_all (all : table.All property) {scope user name : String}
    {m : MessageSymbol} (found : resolveMessage table scope user name = .ok m) :
    property (.message m.ref) := by
  obtain ⟨⟨fullName, symbol⟩, resolved, found⟩ := bind_ok_iff.mp found
  cases symbol with
  | message own =>
    cases found
    exact all _ (mem_of_resolve resolved) _ rfl
  | enum _ => cases found
  | other => cases found

theorem FieldDescriptor.resolveType_all (all : table.All property) {f : FieldDescriptor}
    {r : Resolved} (found : f.resolveType table c = .ok r) :
    (∀ e, r.enum = some e → property (.enum e)) ∧
      ∀ m, r.message = some m → property (.message m.ref) := by
  unfold resolveType at found
  split at found
  case h_1 =>
    cases found
    exact ⟨nofun, nofun⟩
  case h_2 name _ =>
    obtain ⟨⟨fullName, symbol⟩, resolved, found⟩ := bind_ok_iff.mp found
    have held := all _ (mem_of_resolve resolved)
    dsimp only at found
    split at found
    case h_1 => cases found
    case h_2 =>
      cases found
      exact ⟨nofun, fun m same => by cases same; exact held _ rfl⟩
    case h_3 => cases found
    case h_4 =>
      cases found
      exact ⟨fun e same => by cases same; exact held _ rfl, nofun⟩
    all_goals cases found

theorem FieldDescriptor.link_all (all : table.All property) {f : FieldDescriptor}
    {oneofs : List OneofDescriptor} {field : FieldDecl}
    (linked : f.link table c oneofs = .ok field) : ∀ d, field.Names d → property d := by
  obtain ⟨r, resolved, linked⟩ := bind_ok_iff.mp linked
  obtain ⟨⟨⟩, -, linked⟩ := bind_ok_iff.mp linked
  obtain ⟨⟨⟩, -, linked⟩ := bind_ok_iff.mp linked
  cases linked
  obtain ⟨enums, messages⟩ := FieldDescriptor.resolveType_all all resolved
  intro d names
  cases names with
  | enum same => exact enums _ same
  | message same =>
    obtain ⟨m, held, rfl⟩ := Option.map_eq_some_iff.mp same
    exact messages m held

theorem MethodDescriptor.link_all (all : table.All property) {m : MethodDescriptor}
    {service : String} {method : MethodDecl} (linked : m.link table c service = .ok method) :
    property (.message method.input) ∧ property (.message method.output) := by
  obtain ⟨⟨⟩, -, linked⟩ := bind_ok_iff.mp linked
  obtain ⟨⟨⟩, -, linked⟩ := bind_ok_iff.mp linked
  obtain ⟨input, inputFound, linked⟩ := bind_ok_iff.mp linked
  obtain ⟨output, outputFound, linked⟩ := bind_ok_iff.mp linked
  cases linked
  exact ⟨resolveMessage_all all inputFound, resolveMessage_all all outputFound⟩

/-- What declaring a service comes to. -/
theorem ServiceDescriptor.declare_ok {s : ServiceDescriptor} {service : ServiceDecl}
    (declared : s.declare c table = .ok (service, after)) :
    table.declare c.scope s.title .other = .ok after ∧ service.name = s.title ∧
      s.methods.mapM (·.link after c (qualify c.scope s.title)) = .ok service.methods := by
  obtain ⟨own, first, declared⟩ := bind_ok_iff.mp declared
  obtain ⟨methods, linked, declared⟩ := bind_ok_iff.mp declared
  obtain ⟨⟨⟩, -, declared⟩ := bind_ok_iff.mp declared
  cases declared
  exact ⟨first, rfl, linked⟩

theorem declareServices_all (all : table.All property) {row : List ServiceDescriptor}
    {services : List ServiceDecl} (declared : declareServices c table row = .ok (services, after)) :
    after.All property ∧ ∀ s ∈ services, ∀ m ∈ s.methods,
      property (.message m.input) ∧ property (.message m.output) := by
  induction row generalizing table services with
  | nil =>
    cases declared
    exact ⟨all, nofun⟩
  | cons s row ih =>
    obtain ⟨⟨service, next⟩, here, declared⟩ := bind_ok_iff.mp declared
    obtain ⟨⟨rest, last⟩, later, declared⟩ := bind_ok_iff.mp declared
    cases declared
    obtain ⟨first, -, linked⟩ := ServiceDescriptor.declare_ok here
    have grown : next.All property := all.declare (fun _ _ none => by cases none) first
    obtain ⟨final, resolved⟩ := ih grown later
    refine ⟨final, List.forall_mem_cons.mpr ⟨fun m member => ?_, resolved⟩⟩
    obtain ⟨descriptor, -, made⟩ := mapM_ok_origin linked m member
    exact MethodDescriptor.link_all grown made

/-! ### Files that are linked -/

/-- A linked message holds its linked fields and messages, and the enums as they are declared. -/
theorem MessageDescriptor.link_ok {parts : MessageParts} {messages : List MessageDescriptor}
    {c : Context} {decl : MessageDecl}
    (linked : MessageDescriptor.link table c ⟨parts, messages⟩ = .ok decl) :
    parts.fields.mapM (·.link table (c.inside parts) parts.oneofs) = .ok decl.fields ∧
      linkMessages table (c.inside parts) messages = .ok decl.messages ∧
      decl.ref = parts.ref c ∧ decl.enums = parts.enums.map (·.decl (c.inside parts)) := by
  rw [MessageDescriptor.link] at linked
  obtain ⟨fields, made, linked⟩ := bind_ok_iff.mp linked
  obtain ⟨⟨⟩, -, linked⟩ := bind_ok_iff.mp linked
  obtain ⟨inner, nested, linked⟩ := bind_ok_iff.mp linked
  dsimp only at linked
  split at linked
  · obtain ⟨⟨⟩, -, linked⟩ := bind_ok_iff.mp linked
    cases linked
    exact ⟨made, nested, rfl, rfl⟩
  · cases linked
    exact ⟨made, nested, rfl, rfl⟩

/-- Each of the messages that are linked one after the other is linked. -/
theorem linkMessages_members {messages : List MessageDescriptor} {decls : List MessageDecl}
    (linked : linkMessages table c messages = .ok decls) :
    ∀ m ∈ messages, ∃ decl ∈ decls, m.link table c = .ok decl := by
  induction messages generalizing decls with
  | nil => nofun
  | cons first rest ih =>
    rw [linkMessages] at linked
    obtain ⟨decl, here, linked⟩ := bind_ok_iff.mp linked
    obtain ⟨others, later, linked⟩ := bind_ok_iff.mp linked
    cases linked
    refine List.forall_mem_cons.mpr ⟨⟨decl, List.mem_cons_self, here⟩, fun m member => ?_⟩
    obtain ⟨other, listed, made⟩ := ih later m member
    exact ⟨other, List.mem_cons_of_mem _ listed, made⟩

/-- A linked message holds all that its descriptor declares. -/
theorem MessageDescriptor.Introduces.linked {m : MessageDescriptor} {scope : String}
    {d : Declaration} (introduced : m.Introduces c scope d) {decl : MessageDecl}
    (linked : m.link table c = .ok decl) : decl.Declares c.scope scope d := by
  induction introduced generalizing decl with
  | self =>
    obtain ⟨-, -, same, -⟩ := MessageDescriptor.link_ok linked
    exact same ▸ .self
  | @enum c parts _ _ member =>
    obtain ⟨-, -, same, enums⟩ := MessageDescriptor.link_ok linked
    have inside : decl.fullName = (c.inside parts).scope := congrArg MessageRef.fullName same
    exact inside ▸ .enum (enums ▸ List.mem_map_of_mem member)
  | @inner c parts _ n _ _ member _ ih =>
    obtain ⟨-, nested, same, -⟩ := MessageDescriptor.link_ok linked
    have inside : decl.fullName = (c.inside parts).scope := congrArg MessageRef.fullName same
    obtain ⟨inner, listed, made⟩ := linkMessages_members nested n member
    exact .inner listed (inside ▸ ih made)

theorem linkMessages_all (all : table.All property) {messages : List MessageDescriptor}
    {decls : List MessageDecl} (linked : linkMessages table c messages = .ok decls) :
    ∀ m ∈ decls, ∀ field ∈ m.fields, ∀ d, field.Names d → property d := by
  induction messages generalizing decls with
  | nil =>
    cases linked
    nofun
  | cons first rest ih =>
    rw [linkMessages] at linked
    obtain ⟨decl, here, linked⟩ := bind_ok_iff.mp linked
    obtain ⟨others, later, linked⟩ := bind_ok_iff.mp linked
    cases linked
    refine List.forall_mem_cons.mpr ⟨fun field member => ?_, ih later⟩
    obtain ⟨parts, messages⟩ := first
    obtain ⟨made, -⟩ := MessageDescriptor.link_ok here
    obtain ⟨descriptor, -, one⟩ := mapM_ok_origin made field member
    exact FieldDescriptor.link_all all one

/-- Whether one of the files declares a type. -/
def Homed (files : List SchemaFile) (d : Declaration) : Prop :=
  ∃ home ∈ files, ∃ scope, home.Homes scope d

/-- What holds of a pool whose files are among those that are loaded: all types in its table and
all types that the loaded files refer to are declared in one of them. -/
structure Pool.Sound (p : Pool) (loaded : List SchemaFile) : Prop where
  files : ∀ entry ∈ p.files, entry.2 ∈ loaded
  table : p.table.All (Homed loaded)
  names : ∀ f ∈ loaded, ∀ d, f.Names d → Homed loaded d

theorem Pool.sound_empty : ({} : Pool).Sound [] where
  files _ member := absurd member List.not_mem_nil
  table _ member := absurd member List.not_mem_nil
  names _ member := absurd member List.not_mem_nil

theorem Homed.mono {files more : List SchemaFile} (subset : files ⊆ more) {d : Declaration}
    (homed : Homed files d) : Homed more d := by
  obtain ⟨home, member, scope, homes⟩ := homed
  exact ⟨home, subset member, scope, homes⟩

theorem SymbolTable.All.imp {stronger weaker : Declaration → Prop} {table : SymbolTable}
    (all : table.All stronger) (weaken : ∀ d, stronger d → weaker d) : table.All weaker :=
  fun entry member d same => weaken d (all entry member d same)

/-- What linking a file can do: it is in the pool already and written out the same way, or it is new
and all that it declares joins the table. -/
inductive Pool.LinkStep (p : Pool) (f : FileDescriptor) : SchemaFile → Pool → Prop where
  | known {known file} (held : p.file? f.path = some (known, file)) (same : known.same f = true) :
      p.LinkStep f file p
  | new {dialect t₁ t₂ t₃ t₄ services messages} (absent : p.file? f.path = none)
      (usable : f.checkedDialect = .ok dialect) (depends : p.checkDependencies f = .ok ())
      (enums : f.enums.foldlM (fun table e => e.declare (f.context dialect) table) p.table = .ok t₁)
      (extensions : f.extensions.foldlM
        (fun table x => x.declareExtension (f.context dialect) none table) t₁ = .ok t₂)
      (declared : declareMessages (f.context dialect) t₂ f.messages = .ok t₃)
      (served : declareServices (f.context dialect) t₃ f.services = .ok (services, t₄))
      (nested : linkMessages t₄ (f.context dialect) f.messages = .ok messages) :
      p.LinkStep f
        { name := (f.context dialect).file
          package := (f.context dialect).package
          generate := false
          enums := f.enums.map (·.decl (f.context dialect))
          messages := messages
          services := services }
        ⟨p.files ++ [(f.writtenOut t₄ (f.context dialect),
          { name := (f.context dialect).file
            package := (f.context dialect).package
            generate := false
            enums := f.enums.map (·.decl (f.context dialect))
            messages := messages
            services := services })], t₄⟩

theorem Pool.link_step {p next : Pool} {f : FileDescriptor} {file : SchemaFile}
    (linked : p.link f = .ok (file, next)) : p.LinkStep f file next := by
  unfold Pool.link at linked
  split at linked
  case h_1 known found held =>
    dsimp only at linked
    split at linked
    case isTrue same =>
      cases linked
      exact .known held same
    case isFalse => cases linked
  case h_2 absent =>
    obtain ⟨dialect, usable, linked⟩ := bind_ok_iff.mp linked
    obtain ⟨⟨⟩, -, linked⟩ := bind_ok_iff.mp linked
    obtain ⟨⟨⟩, depends, linked⟩ := bind_ok_iff.mp linked
    obtain ⟨t₁, enums, linked⟩ := bind_ok_iff.mp linked
    obtain ⟨t₂, extensions, linked⟩ := bind_ok_iff.mp linked
    obtain ⟨t₃, messages, linked⟩ := bind_ok_iff.mp linked
    obtain ⟨⟨services, t₄⟩, methods, linked⟩ := bind_ok_iff.mp linked
    obtain ⟨⟨⟩, -, linked⟩ := bind_ok_iff.mp linked
    obtain ⟨decls, nested, linked⟩ := bind_ok_iff.mp linked
    obtain ⟨⟨⟩, -, linked⟩ := bind_ok_iff.mp linked
    cases linked
    have new : p.file? f.path = none := by
      cases found : p.file? f.path with
      | none => rfl
      | some entry => exact absurd found (absent entry.1 entry.2)
    exact .new new usable depends enums extensions messages methods nested

/-- What linking a new file comes to. -/
theorem Pool.link_ok {p next : Pool} {f : FileDescriptor} {file : SchemaFile}
    (linked : p.link f = .ok (file, next)) :
    ((∃ known, (known, file) ∈ p.files) ∧ next = p) ∨
      ∃ c t₁ t₂ t₃ known, f.enums.foldlM (fun table e => e.declare c table) p.table = .ok t₁ ∧
        f.extensions.foldlM (fun table x => x.declareExtension c none table) t₁ = .ok t₂ ∧
        declareMessages c t₂ f.messages = .ok t₃ ∧
        declareServices c t₃ f.services = .ok (file.services, next.table) ∧
        linkMessages next.table c f.messages = .ok file.messages ∧
        file.name = c.file ∧ file.package = c.package ∧ c.scope = c.package ∧
        file.enums = f.enums.map (·.decl c) ∧ next.files = p.files ++ [(known, file)] := by
  cases Pool.link_step linked with
  | known held _ => exact .inl ⟨⟨_, List.mem_of_find?_eq_some held⟩, rfl⟩
  | @new dialect _ _ _ _ _ _ _ _ _ enums extensions messages methods nested =>
    have package : (f.context dialect).package = f.package.getD "" := Context.under_package _ _
    have scope : (f.context dialect).scope = f.package.getD "" := Context.under_scope _ _
    exact .inr ⟨_, _, _, _, _, enums, extensions, messages, methods, nested, rfl, rfl,
      scope.trans package.symm, rfl, rfl⟩

theorem Pool.Sound.link {p next : Pool} {loaded : List SchemaFile} {f : FileDescriptor}
    {file : SchemaFile} (sound : p.Sound loaded) (linked : p.link f = .ok (file, next)) :
    next.Sound (loaded ++ [file]) := by
  have grown : loaded ⊆ loaded ++ [file] := List.subset_append_left _ _
  have last : file ∈ loaded ++ [file] := by simp
  rcases Pool.link_ok linked with ⟨⟨known, listed⟩, rfl⟩ |
    ⟨c, t₁, t₂, t₃, known, enums, extensions, messages, methods, nested, name, package, scope,
      decls, files⟩
  · have member := sound.files _ listed
    refine ⟨fun entry old => grown (sound.files entry old), sound.table.imp fun _ => .mono grown, ?_⟩
    intro g loadedFile d names
    have old : g ∈ loaded := by
      rcases List.mem_append.mp loadedFile with old | new
      · exact old
      · exact List.mem_singleton.mp new ▸ member
    exact (sound.names g old d names).mono grown
  · have homed (scope : String) (d : Declaration) (introduced : f.Introduces c scope d)
        (named : checkName d.name = .ok ()) : Homed (loaded ++ [file]) d := by
      obtain ⟨fromFile, fromPackage, qualified⟩ := introduced.origin
      have declares : file.Declares scope d := by
        cases introduced with
        | enum member =>
          rw [‹c.scope = c.package›, ← package]
          exact .enum (decls ▸ List.mem_map_of_mem member)
        | message member introduced =>
          obtain ⟨m, listed, made⟩ := linkMessages_members nested _ member
          have holds := introduced.linked made
          rw [‹c.scope = c.package›, ← package] at holds
          exact .message listed holds
      exact ⟨file, last, scope, declares, fromFile.trans name.symm, fromPackage.trans package.symm,
        qualified, named⟩
    have start : p.table.All (Homed (loaded ++ [file])) := sound.table.imp fun _ => .mono grown
    have first : t₁.All (Homed (loaded ++ [file])) :=
      start.foldlM (fun e member _ _ all step => EnumDescriptor.declare_all all
        (fun named => homed _ _ (.enum member) named) step) enums
    have second : t₂.All (Homed (loaded ++ [file])) :=
      first.foldlM (fun _ _ _ _ all step => FieldDescriptor.declareExtension_all all step) extensions
    have third : t₃.All (Homed (loaded ++ [file])) :=
      declareMessages_all _ second
        (fun m member scope d introduced => homed scope d (.message member introduced)) messages
    obtain ⟨final, resolved⟩ := declareServices_all third methods
    refine ⟨?_, final, ?_⟩
    · intro entry member
      rw [files] at member
      rcases List.mem_append.mp member with old | new
      · exact grown (sound.files entry old)
      · rw [List.mem_singleton.mp new]
        exact last
    · intro g member d names
      rcases List.mem_append.mp member with old | new
      · exact (sound.names g old d names).mono grown
      · rw [List.mem_singleton.mp new] at names
        cases names with
        | input service method => exact (resolved _ service _ method).1
        | output service method => exact (resolved _ service _ method).2
        | field message field held => exact linkMessages_all final nested _ message _ field _ held

/-- The first of a row of files is linked, and the others in what the pool is then. -/
theorem linkAll_cons_ok {p : Pool} {f : FileDescriptor} {rest : List FileDescriptor}
    {files : List SchemaFile} (linked : linkAll p (f :: rest) = .ok files) :
    ∃ file next later, p.link f = .ok (file, next) ∧ linkAll next rest = .ok later ∧
      files = file :: later := by
  rw [linkAll] at linked
  split at linked
  · cases linked
  · split at linked
    case h_1 => cases linked
    case h_2 file next here =>
      obtain ⟨later, done, linked⟩ := bind_ok_iff.mp linked
      cases linked
      exact ⟨file, next, later, here, done, rfl⟩

/-- All types that linked files refer to are declared in them. -/
theorem Pool.Sound.linkAll {p : Pool} {loaded files : List SchemaFile}
    {descriptors : List FileDescriptor} (sound : p.Sound loaded)
    (linked : linkAll p descriptors = .ok files) :
    ∀ f ∈ loaded ++ files, ∀ d, f.Names d → Homed (loaded ++ files) d := by
  -- The pool grows from file to file, and so do the files that are loaded.
  induction descriptors generalizing p loaded files with
  | nil =>
    cases linked
    simpa using sound.names
  | cons f rest ih =>
    obtain ⟨file, next, later, here, done, rfl⟩ := linkAll_cons_ok linked
    simpa using ih (sound.link here) done

/-- Marking files changes nothing in what they declare. -/
theorem SchemaFile.Homes.mark {f : SchemaFile} {scope : String} {d : Declaration}
    (homes : f.Homes scope d) (generate : Bool) :
    ({ f with generate := generate } : SchemaFile).Homes scope d where
  declares := by
    cases homes.declares with
    | enum member => exact .enum member
    | message member holds => exact .message member holds
  file := homes.file
  package := homes.package
  qualified := homes.qualified
  named := homes.named

/-- Every type that a loaded file refers to is declared in a loaded file. -/
theorem loadFiles_homed {descriptors : List FileDescriptor} {wanted : List Text.Raw} {stack : Stack}
    {files : List SchemaFile} (loaded : loadFiles descriptors wanted stack = .ok files) :
    ∀ f ∈ files, ∀ d, f.Names d → Homed files d := by
  obtain ⟨linked, done, -, -, rfl⟩ := loadFiles_ok_iff.mp loaded
  have closed := Pool.sound_empty.linkAll done
  intro f member d names
  obtain ⟨original, listed, rfl⟩ := List.mem_map.mp member
  have unmarked : original.Names d := by
    cases names with
    | input service method => exact .input service method
    | output service method => exact .output service method
    | field message field held => exact .field message field held
  obtain ⟨home, homeListed, scope, homes⟩ := closed original listed d unmarked
  exact ⟨_, List.mem_map_of_mem homeListed, scope, homes.mark _⟩

end RpcBindings.Schema
