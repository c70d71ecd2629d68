import RpcBindings.Schema.WrittenOut

/-! Linking: a file joins the files linked before it if its names are well formed and new, its
declarations obey the rules of its dialect, and every type it names is declared, in any of the
files. -/
namespace RpcBindings.Schema

mutual

def MessageDescriptor.link (table : SymbolTable) (c : Context) :
    MessageDescriptor → Except LinkError MessageDecl
  | ⟨m, messages⟩ => do
    let inner := c.inside m
    let fields ← m.fields.mapM (·.link table inner m.oneofs)
    m.extensions.forM (·.checkExtension table inner)
    let messages ← linkMessages table inner messages
    if m.isMapEntry then checkMapEntry fields
    let ref := m.ref c
    return {
      name := ref.name
      fullName := ref.fullName
      file := ref.file
      package := ref.package
      isMapEntry := m.isMapEntry
      fields := fields
      messages := messages
      enums := m.enums.map (·.decl inner) }

def linkMessages (table : SymbolTable) (c : Context) :
    List MessageDescriptor → Except LinkError (List MessageDecl)
  | [] => .ok []
  | m :: rest => do return (← m.link table c) :: (← linkMessages table c rest)

end

/-- The files linked so far, each with its descriptor written out, and the names that they
declare. -/
structure Pool where
  files : List (FileDescriptor × SchemaFile) := []
  table : SymbolTable := []

def Pool.file? (p : Pool) (name : Text.Raw) : Option (FileDescriptor × SchemaFile) :=
  p.files.find? fun file => file.1.path == name

/-- The dependencies of a file are linked, and the public and the weak ones are among them. -/
def Pool.checkDependencies (p : Pool) (f : FileDescriptor) : Except LinkError Unit := do
  f.dependencies.forM fun name => do
    if (p.file? name).isNone then throw (.missingDependency name.beforeNul.shown)
  f.publicDependencies.forM fun index => do
    if f.dependencies.length ≤ index then throw (.publicDependencyOutOfRange index)
  f.weakDependencies.forM fun index => do
    if f.dependencies.length ≤ index then throw (.weakDependencyOutOfRange index)

/-- The dialect of a file whose name, package and edition can be used. -/
def FileDescriptor.checkedDialect (f : FileDescriptor) : Except LinkError Dialect := do
  if f.path.beforeNul ≠ f.path then throw .nulInFileName
  if f.package.getD "" ≠ "" then checkPackage (f.package.getD "")
  let some dialect := Dialect.ofName? f.dialect
    | throw (.unknownDialect (beforeNul (f.dialect.getD "")))
  let edition := dialect.edition f.edition
  if edition < earliestEdition then throw (.editionTooEarly edition)
  if latestEdition < edition then throw (.editionTooLate edition)
  return dialect

/-- The extensions of a file written out differ from each other and from those in the pool. -/
def Pool.checkExtensions (p : Pool) (known : FileDescriptor) : Except LinkError Unit :=
  let taken := p.files.flatMap (·.1.extensionNumbers)
  if (known.extensionNumbers ++ taken).Nodup then .ok () else .error .duplicateExtension

/-- Links a file to the files of a pool. A file that is there already and written out is the one
that is there. -/
def Pool.link (p : Pool) (f : FileDescriptor) : Except LinkError (SchemaFile × Pool) := do
  if let some (known, file) := p.file? f.path then
    if known.same f then return (file, p)
    throw (.duplicateFile f.path.beforeNul.shown)
  let dialect ← f.checkedDialect
  let c := f.context dialect
  c.checkFeatures f.options
  p.checkDependencies f
  let table ← f.enums.foldlM (fun table e => e.declare c table) p.table
  let table ← f.extensions.foldlM (fun table x => x.declareExtension c none table) table
  let table ← declareMessages c table f.messages
  let (services, table) ← declareServices c table f.services
  f.extensions.forM (·.checkExtension table c)
  let messages ← linkMessages table c f.messages
  let file : SchemaFile := {
    name := c.file
    package := c.package
    generate := false
    enums := f.enums.map (·.decl c)
    messages := messages
    services := services }
  let known := f.writtenOut table c
  p.checkExtensions known
  return (file, ⟨p.files ++ [(known, file)], table⟩)

end RpcBindings.Schema
