import RpcBindings.Proofs.Schema.Marking
import RpcBindings.Proofs.Schema.Mirror
import RpcBindings.Proofs.Schema.Unique

/-! The graph of loaded files. Its objects hold the files that were linked, whole and in order, and no
others; it has one object for each declaration, and every reference leads to the object that is listed
in the file of the declaration. -/
namespace RpcBindings.Schema

open Outcome
open Text (Raw)

namespace View

theorem exists_of_rel {α β : Type} {R : α → β → Prop} {x : Option α} {y : Option β}
    (related : Option.Rel R x y) {b : β} (member : b ∈ y) : ∃ a ∈ x, R a b := by
  cases related with
  | some here =>
    cases member
    exact ⟨_, rfl, here⟩
  | none => cases member

/-! ### Objects with all that they lead to -/

/-- Whether the object at an address is an enum. -/
def HoldsEnum (v : View) (e : EnumDecl) (a : Address) : Prop := v.enums[a]? = some e

/-- Whether the object at an address is that of the message that a reference names. -/
def RefersTo (v : View) (r : MessageRef) (a : Address) : Prop :=
  ∃ node ∈ v.messages[a]?, r = ⟨node.name, node.fullName, node.file, node.package⟩

/-- Whether the object at an address is that of a message, and the objects of all messages inside it
are where it says. -/
inductive Holds (v : View) : MessageDecl → Address → Prop
  | intro {m a node} (here : v.messages[a]? = some node)
      (like : MessageLike v.HoldsEnum v.RefersTo m node)
      (messages : List.Forall₂ v.Holds m.messages node.messages) : v.Holds m a

abbrev HoldsFile (v : View) := FileLike v.HoldsEnum v.RefersTo v.Holds

section

open Relator

variable {v : View}

theorem rel_unique {α β : Type} {R : α → β → Prop} (unique : LeftUnique R) :
    LeftUnique (Option.Rel R) := by
  intro x z y first second
  cases first with
  | some here =>
    cases second with
    | some there => rw [unique here there]
  | none =>
    cases second
    rfl

theorem holdsEnum_unique : LeftUnique v.HoldsEnum :=
  fun _ _ _ first second => Option.some.inj (first.symm.trans second)

theorem refersTo_unique : LeftUnique v.RefersTo := by
  rintro r s a ⟨node, here, rfl⟩ ⟨other, there, rfl⟩
  cases here.symm.trans there
  rfl

theorem fieldLike_unique : LeftUnique (FieldLike v.HoldsEnum v.RefersTo) := by
  intro f g node first second
  rw [FieldDecl.mk.injEq]
  exact ⟨first.name.symm.trans second.name, first.number.symm.trans second.number,
    first.kind.symm.trans second.kind, first.cardinality.symm.trans second.cardinality,
    rel_unique holdsEnum_unique first.enum second.enum,
    rel_unique refersTo_unique first.message second.message⟩

mutual

/-- An object is that of one message only. -/
theorem holds_unique : ∀ (m : MessageDecl) {n : MessageDecl} {a : Address}, v.Holds m a → v.Holds n a →
    m = n
  | ⟨name, fullName, file, package, isMapEntry, fields, messages, enums⟩, n, a, first, second => by
    cases first with
    | intro here like inner =>
      cases second with
      | intro there other others =>
        cases here.symm.trans there
        cases n
        rw [MessageDecl.mk.injEq]
        exact ⟨like.name.symm.trans other.name, like.fullName.symm.trans other.fullName,
          like.file.symm.trans other.file, like.package.symm.trans other.package,
          like.isMapEntry.symm.trans other.isMapEntry,
          List.left_unique_forall₂' fieldLike_unique like.fields other.fields,
          holds_unique_messages messages inner others,
          List.left_unique_forall₂' holdsEnum_unique like.enums other.enums⟩

theorem holds_unique_messages : ∀ (messages : List MessageDecl) {others : List MessageDecl}
    {places : List Address}, List.Forall₂ v.Holds messages places → List.Forall₂ v.Holds others places →
    messages = others
  | [], _, _, first, second => by
    cases first
    cases second
    rfl
  | m :: rest, _, _, first, second => by
    cases first with
    | cons here later =>
      cases second with
      | cons there last => rw [holds_unique m here there, holds_unique_messages rest later last]

end

theorem methodLike_unique : LeftUnique (MethodLike v.RefersTo) := by
  intro m n node first second
  rw [MethodDecl.mk.injEq]
  exact ⟨first.name.symm.trans second.name, refersTo_unique first.input second.input,
    refersTo_unique first.output second.output,
    first.serverStreaming.symm.trans second.serverStreaming⟩

theorem serviceLike_unique : LeftUnique (ServiceLike v.RefersTo) := by
  intro s t node first second
  rw [ServiceDecl.mk.injEq]
  exact ⟨first.name.symm.trans second.name, first.fullName.symm.trans second.fullName,
    List.left_unique_forall₂' methodLike_unique first.methods second.methods⟩

/-- An object is that of one file only, so that a graph tells all of the files that it holds. -/
theorem holdsFile_unique : LeftUnique v.HoldsFile := by
  intro f g node first second
  rw [SchemaFile.mk.injEq]
  exact ⟨first.name.symm.trans second.name, first.package.symm.trans second.package,
    first.generate.symm.trans second.generate,
    List.left_unique_forall₂' holdsEnum_unique first.enums second.enums,
    holds_unique_messages f.messages first.messages second.messages,
    List.left_unique_forall₂' serviceLike_unique first.services second.services⟩

end

/-! ### Objects that are complete -/

section

variable {files : List SchemaFile} {v : View}

theorem at_of_messageAt? {name : String} {a : Address} (found : v.messageAt? name = some a) :
    ∃ node, v.messages[a]? = some node ∧ node.fullName = name := by
  obtain ⟨inside, named, -⟩ := List.findIdx?_eq_some_iff_getElem.mp found
  exact ⟨_, List.getElem?_eq_getElem inside, by simpa using named⟩

variable (files v) in
/-- What holds of a graph once all of it is made. -/
structure Made : Prop where
  coherent : Coherent files
  fit : v.Fit files
  complete : ∀ (a : Address) (node : MessageNode), v.messages[a]? = some node → v.Complete files node

theorem Made.holdsEnum (made : Made files v) {e : EnumDecl} (member : e ∈ Schema.declaredEnums files)
    {a : Address} (found : v.EnumAt e a) : v.HoldsEnum e a := by
  obtain ⟨inside, named, -⟩ := List.findIdx?_eq_some_iff_getElem.mp found
  have same := made.coherent.enums _ (made.fit.declaredEnums (List.getElem_mem inside)) e member
    (by simpa using named)
  rw [HoldsEnum, List.getElem?_eq_getElem inside, same]

/-- The object that a message is registered under shows all of it. -/
theorem Made.shows (made : Made files v) {m : MessageDecl} (member : m ∈ declaredMessages files)
    {a : Address} (found : v.messageAt? m.fullName = some a) :
    ∃ node, v.messages[a]? = some node ∧ v.ShowsMessage m node := by
  obtain ⟨node, here, named⟩ := at_of_messageAt? found
  obtain ⟨n, listed, shown⟩ := made.complete a node here
  rw [made.coherent.messages m member n listed (named.symm.trans shown.fullName)]
  exact ⟨node, here, shown⟩

theorem Made.refersTo (made : Made files v) {r : MessageRef} (known : Known files r) {a : Address}
    (found : v.ReferenceAt r a) : v.RefersTo r a := by
  obtain ⟨m, member, rfl⟩ := known
  obtain ⟨node, here, shown⟩ := made.shows member found
  refine ⟨node, here, ?_⟩
  rw [shown.name, shown.fullName, shown.file, shown.package, MessageDecl.ref]

theorem Made.holdsEnums (made : Made files v) {row : List EnumDecl}
    (declared : ∀ e ∈ row, e ∈ Schema.declaredEnums files) {places : List Address}
    (found : List.Forall₂ v.EnumAt row places) : List.Forall₂ v.HoldsEnum row places :=
  forall₂_imp found fun e member _ here => made.holdsEnum (declared e member) here

theorem Made.fieldLike (made : Made files v) {f : FieldDecl}
    (enums : ∀ e ∈ f.enum, e ∈ Schema.declaredEnums files) (known : ∀ r ∈ f.message, Known files r)
    {node : FieldNode} (shown : v.ShowsField f node) : FieldLike v.HoldsEnum v.RefersTo f node :=
  shown.imp (fun e member _ found => made.holdsEnum (enums e member) found)
    fun r member _ found => made.refersTo (known r member) found

mutual

/-- A message that is registered is there with all that is inside it. -/
theorem Made.holds (made : Made files v) : ∀ (m : MessageDecl), m ∈ declaredMessages files →
    ∀ {a : Address}, v.MessageAt m a → v.Holds m a
  | ⟨name, fullName, file, package, isMapEntry, fields, messages, enums⟩, member, a, found => by
    obtain ⟨node, here, shown⟩ := made.shows member found
    have known := made.coherent.fields _ member
    refine .intro here { shown.toMessageLike with
      fields := forall₂_imp shown.fields fun f inside _ field =>
        made.fieldLike (known f inside).1 (known f inside).2 field
      enums := made.holdsEnums (fun _ inside => declaredEnums_inner member inside) shown.enums } ?_
    exact made.holds_messages messages (fun _ inside => declaredMessages_inner member inside) shown.messages

theorem Made.holds_messages (made : Made files v) : ∀ (messages : List MessageDecl),
    (∀ m ∈ messages, m ∈ declaredMessages files) → ∀ {places : List Address},
    List.Forall₂ v.MessageAt messages places → List.Forall₂ v.Holds messages places
  | [], _, _, found => by
    cases found
    exact .nil
  | m :: rest, members, _, found => by
    obtain ⟨member, others⟩ := List.forall_mem_cons.mp members
    cases found with
    | cons here later => exact .cons (made.holds m member here) (made.holds_messages rest others later)

end

theorem Made.holdsFile (made : Made files v) {f : SchemaFile} (member : f ∈ files) {node : FileNode}
    (shown : v.ShowsFile f node) : v.HoldsFile f node where
  name := shown.name
  package := shown.package
  generate := shown.generate
  enums := made.holdsEnums (fun _ inside => declaredEnums_top member inside) shown.enums
  messages := made.holds_messages f.messages (fun _ inside => declaredMessages_top member inside)
    shown.messages
  services := forall₂_imp shown.services fun s inside _ service => by
    have known := made.coherent.methods f member s inside
    exact service.imp fun m method _ called => called.imp
      (fun _ found => made.refersTo (known m method).1 found)
      fun _ found => made.refersTo (known m method).2 found

/-! ### Where objects are listed -/

/-- Whether a message object is listed in a row of addresses, or inside one that is. -/
inductive Lists (v : View) : List Address → Address → Prop
  | here {row a} : a ∈ row → v.Lists row a
  | inside {row b node a} : b ∈ row → v.messages[b]? = some node → v.Lists node.messages a → v.Lists row a

/-- Whether a message object is listed in the file that it says it is declared in. -/
def HomesMessage (v : View) (nodes : List FileNode) (a : Address) : Prop :=
  ∃ node ∈ v.messages[a]?, ∃ home ∈ nodes,
    home.name = node.file ∧ home.package = node.package ∧ v.Lists home.messages a

/-- Whether an enum object is listed in the file that it says it is declared in, or in a message that
is. -/
def HomesEnum (v : View) (nodes : List FileNode) (a : Address) : Prop :=
  ∃ e ∈ v.enums[a]?, ∃ home ∈ nodes, home.name = e.file ∧ home.package = e.package ∧
    (a ∈ home.enums ∨ ∃ b, v.Lists home.messages b ∧ ∃ node ∈ v.messages[b]?, a ∈ node.enums)

theorem Lists.mono {row more : List Address} (subset : row ⊆ more) {a : Address}
    (lists : v.Lists row a) : v.Lists more a := by
  cases lists with
  | here member => exact .here (subset member)
  | inside member here deeper => exact .inside (subset member) here deeper

mutual

/-- A message that lies in one that is registered is registered, and listed in it. -/
theorem Made.lists (made : Made files v) : ∀ (m : MessageDecl), m ∈ declaredMessages files →
    ∀ {a : Address}, v.messageAt? m.fullName = some a → ∀ {n : MessageDecl}, n ∈ m.all →
    ∃ b, v.messageAt? n.fullName = some b ∧ v.Lists [a] b
  | ⟨name, fullName, file, package, isMapEntry, fields, messages, enums⟩, member, a, found, n, inside => by
    rw [MessageDecl.all, List.mem_cons] at inside
    rcases inside with rfl | deeper
    · exact ⟨a, found, .here List.mem_cons_self⟩
    · obtain ⟨node, here, shown⟩ := made.shows member found
      obtain ⟨b, registered, lists⟩ := made.lists_messages messages
        (fun _ own => declaredMessages_inner member own) shown.messages deeper
      exact ⟨b, registered, .inside List.mem_cons_self here lists⟩

theorem Made.lists_messages (made : Made files v) : ∀ (messages : List MessageDecl),
    (∀ m ∈ messages, m ∈ declaredMessages files) → ∀ {places : List Address},
    List.Forall₂ (fun m a => v.messageAt? m.fullName = some a) messages places →
    ∀ {n : MessageDecl}, n ∈ allMessages messages →
    ∃ b, v.messageAt? n.fullName = some b ∧ v.Lists places b
  | [], _, _, _, _, inside => by
    rw [allMessages] at inside
    cases inside
  | m :: rest, members, _, found, n, inside => by
    obtain ⟨member, others⟩ := List.forall_mem_cons.mp members
    rw [allMessages, List.mem_append] at inside
    cases found with
    | @cons _ a _ places here later =>
      rcases inside with first | last
      · obtain ⟨b, registered, lists⟩ := made.lists m member here first
        exact ⟨b, registered, lists.mono (by simp)⟩
      · obtain ⟨b, registered, lists⟩ := made.lists_messages rest others later last
        exact ⟨b, registered, lists.mono (List.subset_cons_self a places)⟩

end

section

variable {nodes : List FileNode} (made : Made files v) (shown : List.Forall₂ v.ShowsFile files nodes)

include made shown

/-- The object of a message is listed in the object of the file that declares it. -/
theorem listed_of_declared {f : SchemaFile} (file : f ∈ files) {m : MessageDecl}
    (member : m ∈ allMessages f.messages) : ∃ home ∈ nodes, home.name = f.name ∧
      home.package = f.package ∧ ∃ a, v.messageAt? m.fullName = some a ∧ v.Lists home.messages a := by
  obtain ⟨home, inside, own⟩ := forall₂_right shown file
  have lists := made.lists_messages f.messages (fun _ top => declaredMessages_top file top) own.messages
    member
  exact ⟨home, inside, own.name, own.package, lists⟩

theorem enumAt?_of_declared {e : EnumDecl} (member : e ∈ Schema.declaredEnums files) :
    ∃ a, v.enumAt? e.fullName = some a := by
  obtain ⟨f, file, listed⟩ := mem_declaredEnums.mp member
  rcases enum_mem_declarations.mp listed with top | ⟨m, inner, own⟩
  · obtain ⟨home, -, own⟩ := forall₂_right shown file
    obtain ⟨a, -, registered⟩ := forall₂_right own.enums top
    exact ⟨a, registered⟩
  · obtain ⟨-, -, -, -, b, registered, -⟩ := listed_of_declared made shown file inner
    obtain ⟨node, -, whole⟩ := made.shows (List.mem_flatMap.mpr ⟨f, file, inner⟩) registered
    obtain ⟨a, -, same⟩ := forall₂_right whole.enums own
    exact ⟨a, same⟩

variable (located : Located files)

include located

theorem homesMessage_of_known {r : MessageRef} (known : Known files r) {a : Address}
    (found : v.messageAt? r.fullName = some a) : v.HomesMessage nodes a := by
  obtain ⟨m, member, rfl⟩ := known
  obtain ⟨f, file, listed⟩ := List.mem_flatMap.mp member
  obtain ⟨node, here, own⟩ := made.shows member found
  obtain ⟨home, inside, name, package, b, registered, lists⟩ := listed_of_declared made shown file listed
  cases found.symm.trans registered
  obtain ⟨sameFile, samePackage⟩ := located f file _ (message_mem_declarations.mpr ⟨m, listed, rfl⟩)
  exact ⟨node, here, home, inside, name.trans (sameFile.symm.trans own.file.symm),
    package.trans (samePackage.symm.trans own.package.symm), lists⟩

theorem homesEnum_of_declared {e : EnumDecl} (member : e ∈ Schema.declaredEnums files) {a : Address}
    (found : v.enumAt? e.fullName = some a) : v.HomesEnum nodes a := by
  obtain ⟨f, file, listed⟩ := mem_declaredEnums.mp member
  obtain ⟨sameFile, samePackage⟩ := located f file _ listed
  have here := made.holdsEnum member found
  rcases enum_mem_declarations.mp listed with top | ⟨m, inner, own⟩
  · obtain ⟨home, inside, own⟩ := forall₂_right shown file
    obtain ⟨b, listed, registered⟩ := forall₂_right own.enums top
    cases found.symm.trans registered
    exact ⟨e, here, home, inside, own.name.trans sameFile.symm, own.package.trans samePackage.symm,
      .inl listed⟩
  · obtain ⟨home, inside, name, package, b, registered, lists⟩ := listed_of_declared made shown file inner
    obtain ⟨node, there, whole⟩ := made.shows (List.mem_flatMap.mpr ⟨f, file, inner⟩) registered
    obtain ⟨c, listed, same⟩ := forall₂_right whole.enums own
    cases found.symm.trans same
    exact ⟨e, here, home, inside, name.trans sameFile.symm, package.trans samePackage.symm,
      .inr ⟨b, lists, node, there, listed⟩⟩

/-- What the fields of a message object refer to is listed in the files that declare it. -/
theorem fields_homed {node : MessageNode} (member : node ∈ v.messages) : ∀ f ∈ node.fields,
    (∀ a ∈ f.message, v.HomesMessage nodes a) ∧ ∀ a ∈ f.enum, v.HomesEnum nodes a := by
  obtain ⟨i, here⟩ := List.getElem?_of_mem member
  obtain ⟨m, declared, own⟩ := made.complete i node here
  intro f inside
  obtain ⟨field, listed, shows⟩ := forall₂_left own.fields inside
  obtain ⟨enums, messages⟩ := made.coherent.fields m declared field listed
  constructor
  · intro a refers
    obtain ⟨r, named, found⟩ := exists_of_rel shows.message refers
    exact homesMessage_of_known made shown located (messages r named) found
  · intro a refers
    obtain ⟨e, named, found⟩ := exists_of_rel shows.enum refers
    exact homesEnum_of_declared made shown located (enums e named) found

theorem methods_homed {file : FileNode} (member : file ∈ nodes) : ∀ s ∈ file.services, ∀ m ∈ s.methods,
    v.HomesMessage nodes m.input ∧ v.HomesMessage nodes m.output := by
  obtain ⟨f, listed, own⟩ := forall₂_left shown member
  intro s service m method
  obtain ⟨s', declared, shows⟩ := forall₂_left own.services service
  obtain ⟨m', inside, called⟩ := forall₂_left shows.methods method
  obtain ⟨input, output⟩ := made.coherent.methods f listed s' declared m' inside
  exact ⟨homesMessage_of_known made shown located input called.input,
    homesMessage_of_known made shown located output called.output⟩

end

/-- Every object is that of a message, whole. -/
theorem Made.whole (made : Made files v) {a : Address} (inside : a < v.messages.length) :
    ∃ m ∈ declaredMessages files, v.Holds m a := by
  obtain ⟨m, member, shown⟩ := made.complete a _ (List.getElem?_eq_getElem inside)
  have found : v.MessageAt m a := by
    refine List.findIdx?_eq_some_iff_getElem.mpr ⟨inside, by simp [shown.fullName], ?_⟩
    intro b before same
    have first : b < v.names.length := v.length_names ▸ Nat.lt_trans before inside
    have second : a < v.names.length := v.length_names ▸ inside
    have equal : v.names.get ⟨b, first⟩ = v.names.get ⟨a, second⟩ := by
      simpa [names, shown.fullName] using same
    exact Nat.ne_of_lt before (Fin.mk.inj (List.nodup_iff_injective_get.mp made.fit.distinct equal))
  exact ⟨m, member, made.holds m member found⟩

end

/-! ### Graphs of loaded files -/

/-- Whether a graph shows linked files, and no others: each file with all that it holds, in order. There
is one object for each declaration, and what refers to a declaration has the address of the object that
is listed in its file. -/
structure Faithful (files : List SchemaFile) (nodes : List FileNode) (v : View) : Prop where
  all : List.Forall₂ v.HoldsFile files nodes
  only : ∀ others, List.Forall₂ v.HoldsFile others nodes → others = files
  names : (v.messages.map (·.fullName)).Nodup
  whole : ∀ a < v.messages.length, ∃ m ∈ declaredMessages files, v.Holds m a
  made : ∀ m ∈ declaredMessages files, ∃ a, v.Holds m a
  enumNames : (v.enums.map (·.fullName)).Nodup
  enums : ∀ e, e ∈ v.enums ↔ e ∈ declaredEnums files
  fields : ∀ node ∈ v.messages, ∀ f ∈ node.fields,
    (∀ a ∈ f.message, v.HomesMessage nodes a) ∧ ∀ a ∈ f.enum, v.HomesEnum nodes a
  methods : ∀ file ∈ nodes, ∀ s ∈ file.services, ∀ m ∈ s.methods,
    v.HomesMessage nodes m.input ∧ v.HomesMessage nodes m.output

theorem faithful_of_made {files : List SchemaFile} {nodes : List FileNode} {v : View}
    (made : Made files v) (shown : List.Forall₂ v.ShowsFile files nodes) (located : Located files) :
    v.Faithful files nodes where
  all := forall₂_imp shown fun _ member _ file => made.holdsFile member file
  only _ held := List.left_unique_forall₂' holdsFile_unique held
    (forall₂_imp shown fun _ member _ file => made.holdsFile member file)
  names := made.fit.distinct
  whole _ inside := made.whole inside
  made m member := by
    obtain ⟨f, file, listed⟩ := List.mem_flatMap.mp member
    obtain ⟨-, -, -, -, a, registered, -⟩ := listed_of_declared made shown file listed
    exact ⟨a, made.holds m member registered⟩
  enumNames := made.fit.distinctEnums
  enums e := by
    refine ⟨fun member => made.fit.declaredEnums member, fun member => ?_⟩
    obtain ⟨a, found⟩ := enumAt?_of_declared made shown member
    exact List.mem_of_getElem? (made.holdsEnum member found)
  fields _ member := fields_homed made shown located member
  methods _ member := methods_homed made shown located member

/-- The graph of coherent files can be made, and shows them. -/
theorem viewFiles_faithful {files : List SchemaFile} (coherent : Coherent files) (located : Located files) :
    ∃ nodes v, (∀ depth, (declaredMessages files).length < depth → viewFiles depth files = some (nodes, v)) ∧
      v.Faithful files nodes := by
  obtain ⟨nodes, v, run, grown, shown⟩ := viewFiles_reaches coherent
  have made : Made files v :=
    ⟨coherent, grown.fit, fun a node here => grown.complete a node (Nat.zero_le a) here⟩
  exact ⟨nodes, v, run, faithful_of_made made shown located⟩

end View

theorem loadFiles_of_linked {descriptors : List FileDescriptor} {linked : List SchemaFile}
    (links : linkAll {} descriptors = .ok linked) (readable : ∀ f ∈ descriptors, f.path.fault? = none)
    (wanted : List Raw) : loadFiles descriptors wanted =
      .ok (linked.map fun file => { file with generate := .text file.name ∈ wanted }) := by
  exact loadFiles_ok_iff.mpr ⟨linked, links, fits_none _, readable, rfl⟩

/-- Files that can be linked, and whose names can be read, are loaded; the graph of the loaded files
can be made, however they refer to each other, and shows all of them. No more messages are looked into
at once than there are. -/
theorem loadFiles_faithful {descriptors : List FileDescriptor} {linked : List SchemaFile}
    (links : linkAll {} descriptors = .ok linked) (readable : ∀ f ∈ descriptors, f.path.fault? = none)
    (wanted : List Raw) : ∃ files nodes v, loadFiles descriptors wanted = .ok files ∧
      files = (linked.map fun file => { file with generate := .text file.name ∈ wanted }) ∧
      List.Forall₂ FileDescriptor.Mirrors descriptors files ∧ Located files ∧
      (∀ depth, (declaredMessages files).length < depth → viewFiles depth files = some (nodes, v)) ∧
      List.Forall₂ (fun f node => f.path = .text node.name ∧ (node.generate = true ↔ f.path ∈ wanted))
        descriptors nodes ∧
      v.Faithful files nodes := by
  have loaded := loadFiles_of_linked links readable wanted
  obtain ⟨coherent, located⟩ := linkAll_coherent links
  have mirrors : List.Forall₂ FileDescriptor.Mirrors descriptors
      (linked.map fun file => { file with generate := .text file.name ∈ wanted }) := by
    rw [List.forall₂_map_right_iff]
    exact (Pool.mirrored_empty.linkAll links).imp fun _ _ own => own.mark _
  obtain ⟨nodes, v, run, faithful⟩ :=
    View.viewFiles_faithful (coherent.mark fun file => .text file.name ∈ wanted) (located.mark _)
  refine ⟨_, nodes, v, loaded, rfl, mirrors, located.mark _, run, ?_, faithful⟩
  refine forall₂_trans (fun f file node own holds => ?_) (loadFiles_marked loaded) faithful.all
  exact ⟨holds.name ▸ own.path, holds.generate ▸ own.generate_iff⟩

/-- Trees with leaves that refer back to them, and a file whose methods take both. -/
def forest : List FileDescriptor :=
  let part (name : String) (number : Int) (type : String) : FieldDescriptor :=
    { name := some name, number := some number, typeName := some type }
  let leaf : MessageDescriptor := {
    name := some "Leaf"
    fields := [part "tree" 1 "Tree", part "color" 2 "Color"]
    enums := [{ name := some "Shape", values := [{ name := some "ROUND" }] }] }
  [{  name := some "tree.proto"
      package := some "trees"
      messages := [{
        name := some "Tree"
        fields := [part "left" 1 ".trees.Tree", part "leaf" 2 "Leaf", part "shape" 3 "Leaf.Shape"]
        enums := [{ name := some "Color", values := [{ name := some "GREEN", number := some 3 }] }]
        messages := [leaf] }] },
    { name := some "forest.proto"
      package := some "forests"
      dependencies := ["tree.proto"]
      services := [{
        name := some "Forest"
        methods := [{
          name := some "Grow"
          input := some ".trees.Tree.Leaf"
          output := some ".trees.Tree" }] }] }]

theorem loadFiles_faithful_forest : ∃ linked, linkAll {} forest = .ok linked ∧
    (∀ f ∈ forest, f.path.fault? = none) ∧ ∃ files nodes v,
      loadFiles forest ["forest.proto"] = .ok files ∧
      (∀ depth, (declaredMessages files).length < depth → viewFiles depth files = some (nodes, v)) ∧
      List.Forall₂ FileDescriptor.Mirrors forest files ∧ v.Faithful files nodes := by
  have evaluated : ∃ linked ∈ (linkAll {} forest).toOption, linked.length = 2 := by decide +kernel
  obtain ⟨linked, links, -⟩ := ok_of_toOption evaluated
  have readable : ∀ f ∈ forest, f.path.fault? = none := by decide +kernel
  obtain ⟨files, nodes, v, loaded, -, mirrors, -, run, -, faithful⟩ :=
    loadFiles_faithful links readable ["forest.proto"]
  exact ⟨linked, links, readable, files, nodes, v, loaded, run, mirrors, faithful⟩

/-- A file whose name is no text. -/
def unreadable : List FileDescriptor := [{ name := some (.bytes [0xff]) }]

/-- A file whose name is no text can be linked, but not loaded. -/
theorem loadFiles_unreadable : (∃ linked, linkAll {} unreadable = .ok linked) ∧
    loadFiles unreadable [] = .error (.broken (.notText ⟨.invalidStart, 0, 1, 0xff⟩)) := by
  have links : (linkAll {} unreadable).isOk = true := by decide +kernel
  have fails : error? (loadFiles unreadable []) =
      some (.broken (.notText ⟨.invalidStart, 0, 1, 0xff⟩)) := by
    decide +kernel
  exact ⟨exists_of_isOk links, error?_iff.mp fails⟩

end RpcBindings.Schema
