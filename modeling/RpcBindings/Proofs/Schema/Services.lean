import RpcBindings.Proofs.Schema.Declared

/-! The names of services. A service enters the table of names when it is declared, so it has a name
that can stand there; and so have the services of all files that are loaded. -/
namespace RpcBindings.Schema

open Outcome

/-- Whether all services of a file have names that are checked. -/
def SchemaFile.ServicesNamed (f : SchemaFile) : Prop := ∀ s ∈ f.services, checkName s.name = .ok ()

variable {p next : Pool} {file : SchemaFile} {files : List SchemaFile}

theorem checkName_of_declare {table after : SymbolTable} {scope name : String} {symbol : Symbol}
    (declared : table.declare scope name symbol = .ok after) : checkName name = .ok () := by
  obtain ⟨⟨⟩, named, -⟩ := bind_ok_iff.mp declared
  exact named

theorem declareServices_named {c : Context} {table after : SymbolTable} {row : List ServiceDescriptor}
    {services : List ServiceDecl} (declared : declareServices c table row = .ok (services, after)) :
    ∀ s ∈ services, checkName s.name = .ok () := by
  induction row generalizing table services with
  | nil =>
    cases declared
    nofun
  | cons s row ih =>
    obtain ⟨⟨service, next⟩, here, declared⟩ := bind_ok_iff.mp declared
    obtain ⟨⟨rest, last⟩, later, declared⟩ := bind_ok_iff.mp declared
    cases declared
    obtain ⟨first, name, -⟩ := ServiceDescriptor.declare_ok here
    exact List.forall_mem_cons.mpr ⟨name ▸ checkName_of_declare first, ih later⟩

/-- A linked file is new, with services that have just been declared, or it is in the pool already. -/
theorem Pool.link_services (held : ∀ entry ∈ p.files, entry.2.ServicesNamed) {f : FileDescriptor}
    (linked : p.link f = .ok (file, next)) :
    file.ServicesNamed ∧ ∀ entry ∈ next.files, entry.2.ServicesNamed := by
  rcases Pool.link_ok linked with ⟨⟨known, listed⟩, rfl⟩ |
    ⟨c, t₁, t₂, t₃, known, -, -, -, services, -, -, -, -, -, grown⟩
  · exact ⟨held _ listed, held⟩
  · have named : file.ServicesNamed := declareServices_named services
    refine ⟨named, fun entry member => ?_⟩
    rw [grown] at member
    rcases List.mem_append.mp member with old | new
    · exact held entry old
    · cases List.mem_singleton.mp new
      exact named

theorem linkAll_services {descriptors : List FileDescriptor}
    (held : ∀ entry ∈ p.files, entry.2.ServicesNamed) (linked : linkAll p descriptors = .ok files) :
    ∀ f ∈ files, f.ServicesNamed := by
  induction descriptors generalizing p files with
  | nil =>
    cases linked
    nofun
  | cons f rest ih =>
    obtain ⟨file, next, later, here, done, rfl⟩ := linkAll_cons_ok linked
    obtain ⟨named, grown⟩ := Pool.link_services held here
    exact List.forall_mem_cons.mpr ⟨named, ih grown done⟩

theorem loadFiles_services {descriptors : List FileDescriptor} {wanted : List Text.Raw} {stack : Stack}
    (loaded : loadFiles descriptors wanted stack = .ok files) : ∀ f ∈ files, f.ServicesNamed := by
  obtain ⟨linked, done, -, -, rfl⟩ := loadFiles_ok_iff.mp loaded
  intro f member
  obtain ⟨original, listed, rfl⟩ := List.mem_map.mp member
  exact linkAll_services (fun entry member => absurd member List.not_mem_nil) done original listed

/-- The services of all loaded files have names. -/
theorem loadSet_services {descriptors : List FileDescriptor} {names : Option (List String)}
    {stack : Stack} (loaded : loadSet descriptors names stack = .ok files) :
    ∀ f ∈ files, f.ServicesNamed := by
  unfold loadSet at loaded
  split at loaded
  · exact loadFiles_services loaded
  · split at loaded
    · exact loadFiles_services loaded
    · cases loaded

end RpcBindings.Schema
