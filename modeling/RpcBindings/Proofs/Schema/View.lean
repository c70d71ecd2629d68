import Mathlib.Data.List.Nodup
import Mathlib.Data.List.Perm.Subperm
import RpcBindings.Proofs.Outcome
import RpcBindings.Schema.View

/-! The graph of linked files is complete. Whatever is reached first, and through whatever, each
message and each enum is made into one object, and at the end every object holds all that its
declaration does, with the addresses of other objects in the place of references. A step never
changes an object that was there before it, so that a message may be referred to before it is filled:
all objects that a step makes are filled when it is done. -/
namespace RpcBindings.Schema

open Outcome

/-! ### Declarations -/

section

variable {files : List SchemaFile}

theorem MessageDecl.all_eq (m : MessageDecl) : m.all = m :: allMessages m.messages := by
  cases m
  rw [MessageDecl.all]

theorem allMessages_eq (messages : List MessageDecl) :
    allMessages messages = messages.flatMap MessageDecl.all := by
  induction messages with
  | nil => rw [allMessages]; rfl
  | cons m rest ih => rw [allMessages, ih, List.flatMap_cons]

theorem mem_allMessages {messages : List MessageDecl} {m : MessageDecl} (member : m ∈ messages) :
    m ∈ allMessages messages := by
  rw [allMessages_eq, List.mem_flatMap]
  exact ⟨m, member, by rw [m.all_eq]; exact List.mem_cons_self⟩

mutual

theorem MessageDecl.mem_all_inner : ∀ (m : MessageDecl) {outer inner : MessageDecl}, outer ∈ m.all →
    inner ∈ outer.messages → inner ∈ m.all
  | ⟨_, _, _, _, _, _, messages, _⟩, outer, inner, member, inside => by
    rw [MessageDecl.all] at member ⊢
    rcases List.mem_cons.mp member with rfl | later
    · exact List.mem_cons_of_mem _ (mem_allMessages inside)
    · exact List.mem_cons_of_mem _ (allMessages_inner messages later inside)

/-- What lies in one of some messages is one of them if they are all there are. -/
theorem allMessages_inner : ∀ (messages : List MessageDecl) {outer inner : MessageDecl},
    outer ∈ allMessages messages → inner ∈ outer.messages → inner ∈ allMessages messages
  | [], _, _, member, _ => by
    rw [allMessages] at member
    cases member
  | m :: rest, outer, inner, member, inside => by
    rw [allMessages, List.mem_append] at member ⊢
    rcases member with here | later
    · exact .inl (m.mem_all_inner here inside)
    · exact .inr (allMessages_inner rest later inside)

end

theorem declaredMessages_top {f : SchemaFile} (file : f ∈ files) {m : MessageDecl}
    (member : m ∈ f.messages) : m ∈ declaredMessages files :=
  List.mem_flatMap.mpr ⟨f, file, mem_allMessages member⟩

theorem declaredMessages_inner {m n : MessageDecl} (member : m ∈ declaredMessages files)
    (inside : n ∈ m.messages) : n ∈ declaredMessages files := by
  obtain ⟨f, file, listed⟩ := List.mem_flatMap.mp member
  exact List.mem_flatMap.mpr ⟨f, file, allMessages_inner _ listed inside⟩

theorem declaredEnums_top {f : SchemaFile} (file : f ∈ files) {e : EnumDecl} (member : e ∈ f.enums) :
    e ∈ declaredEnums files :=
  List.mem_flatMap.mpr ⟨f, file, List.mem_append_left _ member⟩

theorem declaredEnums_inner {m : MessageDecl} (member : m ∈ declaredMessages files) {e : EnumDecl}
    (inside : e ∈ m.enums) : e ∈ declaredEnums files := by
  obtain ⟨f, file, listed⟩ := List.mem_flatMap.mp member
  exact List.mem_flatMap.mpr
    ⟨f, file, List.mem_append_right _ (List.mem_flatMap.mpr ⟨m, listed, inside⟩)⟩

/-- Whether a message is declared by some files under the name that a reference gives it. -/
def Known (files : List SchemaFile) (r : MessageRef) : Prop := ∃ m ∈ declaredMessages files, m.ref = r

variable (files) in
/-- Whether all references of some files stand for what the files declare, and declarations are told
apart by their full names. -/
structure Coherent : Prop where
  messages : ∀ m ∈ declaredMessages files, ∀ n ∈ declaredMessages files, m.fullName = n.fullName → m = n
  enums : ∀ d ∈ declaredEnums files, ∀ e ∈ declaredEnums files, d.fullName = e.fullName → d = e
  fields : ∀ m ∈ declaredMessages files, ∀ f ∈ m.fields,
    (∀ e ∈ f.enum, e ∈ declaredEnums files) ∧ ∀ r ∈ f.message, Known files r
  methods : ∀ f ∈ files, ∀ s ∈ f.services, ∀ m ∈ s.methods, Known files m.input ∧ Known files m.output

theorem Coherent.target (coherent : Coherent files) {r : MessageRef} (known : Known files r) :
    ∃ m ∈ declaredMessages files, m.ref = r ∧ target? files r = some m := by
  obtain ⟨m, member, rfl⟩ := known
  refine ⟨m, member, rfl, ?_⟩
  cases found : target? files m.ref with
  | none =>
    have other := List.find?_eq_none.mp found m member
    simp [MessageDecl.ref] at other
  | some n =>
    have listed : n ∈ declaredMessages files := List.mem_of_find?_eq_some found
    have named : n.fullName = m.fullName := by simpa [MessageDecl.ref] using List.find?_some found
    rw [coherent.messages n listed m member named]

end

/-! ### What objects show -/

namespace View

/-- The full names of the messages that are registered. -/
def names (v : View) : List String := v.messages.map (·.fullName)

theorem messageAt?_eq (v : View) (name : String) :
    v.messageAt? name = v.names.findIdx? (· == name) := by
  rw [messageAt?, names, List.findIdx?_map]
  rfl

theorem length_names (v : View) : v.names.length = v.messages.length := List.length_map _

/-- Whether a view has the addresses of another one, and maybe more. -/
structure Extends (v w : View) : Prop where
  names : v.names <+: w.names
  enums : v.enums <+: w.enums

theorem Extends.refl (v : View) : v.Extends v := ⟨List.prefix_rfl, List.prefix_rfl⟩

theorem Extends.trans {u v w : View} (first : u.Extends v) (second : v.Extends w) : u.Extends w :=
  ⟨first.names.trans second.names, first.enums.trans second.enums⟩

section

variable {v w : View}

theorem Extends.messageAt? (ext : v.Extends w) {name : String} {a : Address}
    (found : v.messageAt? name = some a) : w.messageAt? name = some a := by
  rw [messageAt?_eq] at found ⊢
  exact ext.names.findIdx?_eq_some found

theorem Extends.enumAt? (ext : v.Extends w) {name : String} {a : Address}
    (found : v.enumAt? name = some a) : w.enumAt? name = some a :=
  ext.enums.findIdx?_eq_some found

end

/-! Which addresses stand for which declarations is left open here, so that the same can be said of
objects while they are made and once all are there. -/

section

variable (enum other : EnumDecl → Address → Prop) (reference named : MessageRef → Address → Prop)
  (message inner : MessageDecl → Address → Prop)

/-- Whether an object is that of a field. -/
structure FieldLike (f : FieldDecl) (node : FieldNode) : Prop where
  name : node.name = f.name
  number : node.number = f.number
  kind : node.kind = f.kind
  cardinality : node.cardinality = f.cardinality
  enum : Option.Rel enum f.enum node.enum
  message : Option.Rel reference f.message node.message

/-- Whether an object is that of a message with its fields and enums. -/
structure MessageLike (m : MessageDecl) (node : MessageNode) : Prop where
  name : node.name = m.name
  fullName : node.fullName = m.fullName
  file : node.file = m.file
  package : node.package = m.package
  isMapEntry : node.isMapEntry = m.isMapEntry
  fields : List.Forall₂ (FieldLike enum reference) m.fields node.fields
  enums : List.Forall₂ enum m.enums node.enums

structure MethodLike (m : MethodDecl) (node : MethodNode) : Prop where
  name : node.name = m.name
  input : reference m.input node.input
  output : reference m.output node.output
  serverStreaming : node.serverStreaming = m.serverStreaming

structure ServiceLike (s : ServiceDecl) (node : ServiceNode) : Prop where
  name : node.name = s.name
  fullName : node.fullName = s.fullName
  methods : List.Forall₂ (MethodLike reference) s.methods node.methods

/-- Whether an object is that of a file, with all that the file holds. -/
structure FileLike (f : SchemaFile) (node : FileNode) : Prop where
  name : node.name = f.name
  package : node.package = f.package
  generate : node.generate = f.generate
  enums : List.Forall₂ enum f.enums node.enums
  messages : List.Forall₂ message f.messages node.messages
  services : List.Forall₂ (ServiceLike reference) f.services node.services

variable {enum other reference named message inner}

theorem rel_imp {α β : Type} {R S : α → β → Prop} {x : Option α} {y : Option β}
    (related : Option.Rel R x y) (each : ∀ a ∈ x, ∀ b, R a b → S a b) : Option.Rel S x y := by
  cases related with
  | some here => exact .some (each _ rfl _ here)
  | none => exact .none

theorem forall₂_imp {α β : Type} {R S : α → β → Prop} {row : List α} {results : List β}
    (related : List.Forall₂ R row results) (each : ∀ a ∈ row, ∀ b, R a b → S a b) :
    List.Forall₂ S row results :=
  ((List.forall₂_and_left row results).mpr ⟨each, related⟩).imp fun _ b one => one.1 b one.2

theorem FieldLike.imp {f : FieldDecl} {node : FieldNode} (like : FieldLike enum reference f node)
    (enums : ∀ e ∈ f.enum, ∀ a, enum e a → other e a)
    (messages : ∀ r ∈ f.message, ∀ a, reference r a → named r a) : FieldLike other named f node :=
  { like with
    enum := rel_imp like.enum enums
    message := rel_imp like.message messages }

theorem MethodLike.imp {m : MethodDecl} {node : MethodNode} (like : MethodLike reference m node)
    (input : ∀ a, reference m.input a → named m.input a)
    (output : ∀ a, reference m.output a → named m.output a) : MethodLike named m node :=
  { like with
    input := input _ like.input
    output := output _ like.output }

theorem ServiceLike.imp {s : ServiceDecl} {node : ServiceNode} (like : ServiceLike reference s node)
    (methods : ∀ m ∈ s.methods, ∀ node, MethodLike reference m node → MethodLike named m node) :
    ServiceLike named s node :=
  { like with methods := forall₂_imp like.methods methods }

end

/-! Objects are found under the names of their declarations while the graph is made. -/

def EnumAt (v : View) (e : EnumDecl) (a : Address) : Prop := v.enumAt? e.fullName = some a

def ReferenceAt (v : View) (r : MessageRef) (a : Address) : Prop := v.messageAt? r.fullName = some a

def MessageAt (v : View) (m : MessageDecl) (a : Address) : Prop := v.messageAt? m.fullName = some a

abbrev ShowsField (v : View) := FieldLike v.EnumAt v.ReferenceAt

structure ShowsMessage (v : View) (m : MessageDecl) (node : MessageNode) : Prop
    extends MessageLike v.EnumAt v.ReferenceAt m node where
  messages : List.Forall₂ v.MessageAt m.messages node.messages

abbrev ShowsMethod (v : View) := MethodLike v.ReferenceAt

abbrev ShowsService (v : View) := ServiceLike v.ReferenceAt

abbrev ShowsFile (v : View) := FileLike v.EnumAt v.ReferenceAt v.MessageAt

section

variable {v w : View}

theorem ShowsField.mono (ext : v.Extends w) {f : FieldDecl} {node : FieldNode}
    (shown : v.ShowsField f node) : w.ShowsField f node :=
  shown.imp (fun _ _ _ found => ext.enumAt? found) fun _ _ _ found => ext.messageAt? found

/-- What an object shows of a message does not depend on what is made later. -/
theorem ShowsMessage.mono (ext : v.Extends w) {m : MessageDecl} {node : MessageNode}
    (shown : v.ShowsMessage m node) : w.ShowsMessage m node :=
  { shown with
    fields := shown.fields.imp fun _ _ field => ShowsField.mono ext field
    messages := shown.messages.imp fun _ _ found => ext.messageAt? found
    enums := shown.enums.imp fun _ _ found => ext.enumAt? found }

theorem ShowsMethod.mono (ext : v.Extends w) {m : MethodDecl} {node : MethodNode}
    (shown : v.ShowsMethod m node) : w.ShowsMethod m node :=
  shown.imp (fun _ found => ext.messageAt? found) fun _ found => ext.messageAt? found

theorem ShowsService.mono (ext : v.Extends w) {s : ServiceDecl} {node : ServiceNode}
    (shown : v.ShowsService s node) : w.ShowsService s node :=
  shown.imp fun _ _ _ method => ShowsMethod.mono ext method

theorem ShowsFile.mono (ext : v.Extends w) {f : SchemaFile} {node : FileNode}
    (shown : v.ShowsFile f node) : w.ShowsFile f node :=
  { shown with
    enums := shown.enums.imp fun _ _ found => ext.enumAt? found
    messages := shown.messages.imp fun _ _ found => ext.messageAt? found
    services := shown.services.imp fun _ _ service => ShowsService.mono ext service }

end

/-! ### Steps -/

section

variable {files : List SchemaFile} {v w : View}

variable (files) in
/-- Whether an object shows all of a message of some files. -/
def Complete (v : View) (node : MessageNode) : Prop :=
  ∃ m ∈ declaredMessages files, v.ShowsMessage m node

variable (files) in
/-- Whether each object of a view is that of a declaration, and of no other object's. -/
structure Fit (v : View) : Prop where
  distinct : v.names.Nodup
  declared : v.names ⊆ (declaredMessages files).map (·.fullName)
  distinctEnums : (v.enums.map (·.fullName)).Nodup
  declaredEnums : v.enums ⊆ declaredEnums files

variable (files) in
/-- What steps do to a view: they change none of its objects, and the messages that they add are
complete. -/
structure Grown (v w : View) : Prop extends v.Extends w where
  fit : w.Fit files
  kept : ∀ (a : Address) (node : MessageNode), v.messages[a]? = some node → w.messages[a]? = some node
  complete : ∀ (a : Address) (node : MessageNode), v.messages.length ≤ a →
    w.messages[a]? = some node → w.Complete files node

theorem Grown.refl (fit : v.Fit files) : v.Grown files v where
  toExtends := .refl v
  fit
  kept _ _ same := same
  complete a node beyond here := by
    rw [List.getElem?_eq_none beyond] at here
    cases here

theorem Grown.trans {u : View} (first : u.Grown files v) (second : v.Grown files w) :
    u.Grown files w where
  toExtends := first.toExtends.trans second.toExtends
  fit := second.fit
  kept a node here := second.kept a node (first.kept a node here)
  complete a node beyond here := by
    by_cases old : a < v.messages.length
    · have there : v.messages[a]? = some v.messages[a] := List.getElem?_eq_getElem old
      cases here.symm.trans (second.kept a _ there)
      obtain ⟨m, member, shown⟩ := first.complete a _ beyond there
      exact ⟨m, member, ShowsMessage.mono second.toExtends shown⟩
    · exact second.complete a node (Nat.le_of_not_lt old) here

theorem Grown.length_le (grown : v.Grown files w) : v.messages.length ≤ w.messages.length := by
  rw [← v.length_names, ← w.length_names]
  exact grown.names.length_le

/-- A view has no more messages than the files declare. -/
theorem Fit.length_le (fit : v.Fit files) : v.messages.length ≤ (declaredMessages files).length := by
  have bound := (List.Nodup.subperm fit.distinct fit.declared).length_le
  rwa [length_names, List.length_map] at bound

theorem findIdx?_none {α : Type} {key : α → String} {row : List α} {name : String}
    (absent : row.findIdx? (key · == name) = none) : name ∉ row.map key := by
  intro member
  obtain ⟨x, listed, same⟩ := List.mem_map.mp member
  have other := List.findIdx?_eq_none_iff.mp absent x listed
  simp [same] at other

/-! ### Messages that are added and filled -/

theorem modify_concat {α : Type} (row : List α) (x : α) (change : α → α) :
    (row ++ [x]).modify row.length change = row ++ [change x] := by
  induction row with
  | nil => rfl
  | cons y row ih => simp [ih]

theorem map_modify {α β : Type} {f : α → β} {change : α → α} (same : ∀ x, f (change x) = f x)
    (row : List α) (i : Nat) : (row.modify i change).map f = row.map f := by
  induction row generalizing i with
  | nil => simp
  | cons x row ih =>
    cases i with
    | zero => simp [same]
    | succ i => simp [ih]

/-- Whether a change to a message object leaves its name. -/
def KeepsName (change : MessageNode → MessageNode) : Prop :=
  ∀ node, (change node).fullName = node.fullName

@[simp] theorem names_addMessage (v : View) (node : MessageNode) :
    (v.addMessage node).names = v.names ++ [node.fullName] := by
  simp [names, addMessage]

@[simp] theorem names_update (v : View) (a : Address) {change : MessageNode → MessageNode}
    (keeps : KeepsName change) : (v.update a change).names = v.names :=
  map_modify keeps v.messages a

theorem update_addMessage (v : View) (node : MessageNode) (change : MessageNode → MessageNode) :
    (v.addMessage node).update v.messages.length change = v.addMessage (change node) := by
  simp [update, addMessage, modify_concat]

theorem Extends.update {change : MessageNode → MessageNode} (keeps : KeepsName change) (v : View)
    (a : Address) : v.Extends (v.update a change) ∧ (v.update a change).Extends v := by
  have names := names_update v a keeps
  exact ⟨⟨names ▸ List.prefix_rfl, List.prefix_rfl⟩, ⟨names ▸ List.prefix_rfl, List.prefix_rfl⟩⟩

theorem keepsName_fields (fields : List FieldNode) : KeepsName ({ · with fields }) := fun _ => rfl

theorem keepsName_messages (messages : List Address) : KeepsName ({ · with messages }) := fun _ => rfl

theorem keepsName_enums (enums : List Address) : KeepsName ({ · with enums }) := fun _ => rfl

theorem Fit.update (fit : v.Fit files) (a : Address) {change : MessageNode → MessageNode}
    (keeps : KeepsName change) : (v.update a change).Fit files where
  distinct := names_update v a keeps ▸ fit.distinct
  declared := names_update v a keeps ▸ fit.declared
  distinctEnums := fit.distinctEnums
  declaredEnums := fit.declaredEnums

/-- A step would have done the same if an object that was there before it had been another one of the
same name. -/
theorem Grown.update (grown : v.Grown files w) {a : Address} (old : a < v.messages.length)
    {change : MessageNode → MessageNode} (keeps : KeepsName change) :
    (v.update a change).Grown files (w.update a change) where
  names := by
    rw [names_update v a keeps, names_update w a keeps]
    exact grown.names
  enums := grown.enums
  fit := grown.fit.update a keeps
  kept b node here := by
    simp only [View.update, List.getElem?_modify, Option.map_eq_map, Option.map_eq_some_iff] at here ⊢
    obtain ⟨own, there, same⟩ := here
    exact ⟨own, grown.kept b own there, same⟩
  complete b node beyond here := by
    simp only [View.update, List.length_modify] at beyond
    have other : a ≠ b := Nat.ne_of_lt (Nat.lt_of_lt_of_le old beyond)
    rw [View.update, List.getElem?_modify_ne _ _ other] at here
    obtain ⟨m, member, shown⟩ := grown.complete b node beyond here
    exact ⟨m, member, ShowsMessage.mono (Extends.update keeps w a).1 shown⟩

theorem Fit.addMessage (fit : v.Fit files) {m : MessageDecl} (member : m ∈ declaredMessages files)
    (absent : v.messageAt? m.fullName = none) {node : MessageNode} (named : node.fullName = m.fullName) :
    (v.addMessage node).Fit files where
  distinct := by
    rw [names_addMessage, named, ← List.concat_eq_append]
    exact List.Nodup.concat (findIdx?_none absent) fit.distinct
  declared := by
    rw [names_addMessage, named]
    refine List.append_subset.mpr ⟨fit.declared, ?_⟩
    simpa using List.mem_map_of_mem member
  distinctEnums := fit.distinctEnums
  declaredEnums := fit.declaredEnums

theorem messageAt?_addMessage {node : MessageNode} {name : String} (named : node.fullName = name)
    (absent : v.messageAt? name = none) : (v.addMessage node).messageAt? name = some v.messages.length := by
  simp only [View.messageAt?] at absent
  simp [View.messageAt?, addMessage, List.findIdx?_append, absent, named]

/-- A message may be added by a step if it is complete at the end. -/
theorem Grown.of_addMessage {node : MessageNode} (grown : (v.addMessage node).Grown files w)
    (complete : w.Complete files node) : v.Grown files w where
  names := by
    have more := grown.names
    rw [names_addMessage] at more
    exact (List.prefix_append _ _).trans more
  enums := grown.enums
  fit := grown.fit
  kept a own here := by
    have inside : a < v.messages.length := (List.getElem?_eq_some_iff.mp here).1
    refine grown.kept a own ?_
    rw [View.addMessage, List.getElem?_append_left inside, here]
  complete a own beyond here := by
    by_cases last : a = v.messages.length
    · have added : w.messages[a]? = some node := by
        refine grown.kept a node ?_
        simp [View.addMessage, last]
      cases here.symm.trans added
      exact complete
    · refine grown.complete a own ?_ here
      simp only [View.addMessage, List.length_append, List.length_singleton]
      exact Nat.lt_of_le_of_ne beyond (Ne.symm last)

/-! ### Making objects -/

variable (files) in
/-- Whether a view is fit and lacks at most so many of the messages of the files. -/
structure Ready (n : Nat) (v : View) : Prop where
  fit : v.Fit files
  lacks : (declaredMessages files).length ≤ v.messages.length + n

theorem Ready.grown {n : Nat} (ready : v.Ready files n) (grown : v.Grown files w) : w.Ready files n where
  fit := grown.fit
  lacks := by
    have longer := grown.length_le
    have lacks := ready.lacks
    omega

theorem Ready.update {n : Nat} (ready : v.Ready files n) (a : Address)
    {change : MessageNode → MessageNode} (keeps : KeepsName change) : (v.update a change).Ready files n where
  fit := ready.fit.update a keeps
  lacks := by
    rw [View.update, List.length_modify]
    exact ready.lacks

variable (files) in
/-- Whether a step comes to an end in every view that is ready, at every depth beyond the number of
messages that may be lacking; it changes nothing that is there, and what it gives shows something in the
view that it leaves. -/
def Makes {β : Type} (n : Nat) (step : Nat → Viewing β) (shown : View → β → Prop) : Prop :=
  ∀ v, v.Ready files n → ∃ b w, (∀ depth, n < depth → (step depth).run v = some (b, w)) ∧
    v.Grown files w ∧ shown w b

/-- Whether what is shown goes on to be shown. -/
def Lasting {β : Type} (shown : View → β → Prop) : Prop :=
  ∀ v w, v.Extends w → ∀ b, shown v b → shown w b

theorem lasting_message (m : MessageDecl) : Lasting fun v a => v.MessageAt m a :=
  fun _ _ ext _ found => ext.messageAt? found

theorem lasting_reference (r : MessageRef) : Lasting fun v a => v.ReferenceAt r a :=
  fun _ _ ext _ found => ext.messageAt? found

theorem lasting_enum (e : EnumDecl) : Lasting fun v a => v.EnumAt e a :=
  fun _ _ ext _ found => ext.enumAt? found

theorem lasting_field (f : FieldDecl) : Lasting fun v node => v.ShowsField f node :=
  fun _ _ ext _ shown => ShowsField.mono ext shown

theorem lasting_method (m : MethodDecl) : Lasting fun v node => v.ShowsMethod m node :=
  fun _ _ ext _ shown => ShowsMethod.mono ext shown

theorem lasting_service (s : ServiceDecl) : Lasting fun v node => v.ShowsService s node :=
  fun _ _ ext _ shown => ShowsService.mono ext shown

theorem lasting_file (f : SchemaFile) : Lasting fun v node => v.ShowsFile f node :=
  fun _ _ ext _ shown => ShowsFile.mono ext shown

section

variable {α β : Type} {n : Nat}

theorem lasting_row {shown : α → View → β → Prop} (lasting : ∀ x, Lasting (shown x)) (row : List α) :
    Lasting fun w bs => List.Forall₂ (fun x b => shown x w b) row bs :=
  fun v w ext _ all => all.imp fun x b one => lasting x v w ext b one

theorem lasting_option {shown : α → View → β → Prop} (lasting : ∀ x, Lasting (shown x)) (x : Option α) :
    Lasting fun w b => Option.Rel (fun x b => shown x w b) x b :=
  fun v w ext _ one => rel_imp one fun x _ b here => lasting x v w ext b here

theorem Makes.imp {step : Nat → Viewing β} {shown other : View → β → Prop}
    (makes : Makes files n step shown) (weaker : ∀ v b, shown v b → other v b) :
    Makes files n step other := by
  intro v ready
  obtain ⟨b, w, run, grown, here⟩ := makes v ready
  exact ⟨b, w, run, grown, weaker w b here⟩

theorem makes_pure (b : β) : Makes files n (fun _ => pure b) fun _ c => c = b := by
  intro v ready
  exact ⟨b, v, fun _ _ => rfl, .refl ready.fit, rfl⟩

theorem Makes.bind {first : Nat → Viewing α} {next : α → Nat → Viewing β} {shown : View → α → Prop}
    {other : α → View → β → Prop} (makes : Makes files n first shown) (lasting : Lasting shown)
    (follow : ∀ a, Makes files n (next a) (other a)) :
    Makes files n (fun depth => first depth >>= fun a => next a depth)
      fun w b => ∃ a, shown w a ∧ other a w b := by
  intro u ready
  obtain ⟨a, v, run, grown, here⟩ := makes u ready
  obtain ⟨b, w, later, more, there⟩ := follow a v (ready.grown grown)
  refine ⟨b, w, fun depth beyond => ?_, grown.trans more, a, lasting v w more.toExtends a here, there⟩
  rw [StateT.run_bind, run depth beyond]
  exact later depth beyond

/-- A row of steps makes what each of them does. -/
theorem Makes.mapM {step : Nat → α → Viewing β} {shown : α → View → β → Prop} {row : List α}
    (lasting : ∀ x, Lasting (shown x))
    (each : ∀ x ∈ row, Makes files n (fun depth => step depth x) (shown x)) :
    Makes files n (fun depth => row.mapM (step depth))
      fun w bs => List.Forall₂ (fun x b => shown x w b) row bs := by
  induction row with
  | nil =>
    simp only [List.mapM_nil]
    refine (makes_pure []).imp fun v bs none => ?_
    rw [none]
    exact .nil
  | cons x row ih =>
    obtain ⟨here, later⟩ := List.forall_mem_cons.mp each
    have tail (b : β) : Makes files n (fun depth => row.mapM (step depth) >>= fun bs => pure (b :: bs))
        fun w cs => ∃ bs, List.Forall₂ (fun x b => shown x w b) row bs ∧ cs = b :: bs :=
      (ih later).bind (lasting_row lasting row) fun bs => makes_pure (b :: bs)
    simp only [List.mapM_cons]
    refine (here.bind (lasting x) tail).imp ?_
    rintro v _ ⟨b, first, bs, others, rfl⟩
    exact .cons first others

theorem Makes.option {step : Nat → α → Viewing β} {shown : α → View → β → Prop} {x : Option α}
    (each : ∀ a ∈ x, Makes files n (fun depth => step depth a) (shown a)) :
    Makes files n (fun depth => x.mapM (step depth))
      fun w b => Option.Rel (fun a b => shown a w b) x b := by
  cases x with
  | none =>
    refine (makes_pure none).imp fun v b none => ?_
    rw [none]
    exact .none
  | some a =>
    intro v ready
    obtain ⟨b, w, run, grown, here⟩ := each a rfl v ready
    refine ⟨some b, w, fun depth beyond => ?_, grown, .some here⟩
    simp [run depth beyond]

end

theorem makes_enum {n : Nat} {e : EnumDecl} (member : e ∈ Schema.declaredEnums files) :
    Makes files n (fun _ => viewEnum e) fun w a => w.EnumAt e a := by
  intro v ready
  cases found : v.enumAt? e.fullName with
  | some a => exact ⟨a, v, fun _ _ => by simp [viewEnum, found], .refl ready.fit, found⟩
  | none =>
    have fresh := findIdx?_none found
    have fit := ready.fit
    refine ⟨v.enums.length, v.addEnum e, fun _ _ => by simp [viewEnum, found], ?_, ?_⟩
    · exact {
        names := List.prefix_rfl
        enums := List.prefix_append _ _
        fit := {
          distinct := fit.distinct
          declared := fit.declared
          distinctEnums := by
            rw [addEnum, List.map_append, List.map_singleton, ← List.concat_eq_append]
            exact List.Nodup.concat fresh fit.distinctEnums
          declaredEnums := List.append_subset.mpr ⟨fit.declaredEnums, by simpa using member⟩ }
        kept := fun _ _ same => same
        complete := fun a node beyond here => by
          rw [addEnum, List.getElem?_eq_none beyond] at here
          cases here }
    · simp only [View.enumAt?] at found
      simp [EnumAt, View.enumAt?, addEnum, List.findIdx?_append, found]

theorem makes_enums {n : Nat} {row : List EnumDecl} (members : ∀ e ∈ row, e ∈ Schema.declaredEnums files) :
    Makes files n (fun _ => row.mapM viewEnum) fun w as => List.Forall₂ w.EnumAt row as :=
  .mapM lasting_enum fun e inside => makes_enum (members e inside)

/-- A message object that was added last is filled with what a step makes. -/
theorem Makes.fill {β : Type} {n : Nat} {step : Nat → Viewing β} {shown : View → β → Prop}
    (makes : Makes files n step shown) (lasting : Lasting shown)
    {change : β → MessageNode → MessageNode} (keeps : ∀ b, KeepsName (change b)) {node : MessageNode}
    (ready : w.Ready files n) (grown : (v.addMessage node).Grown files w) :
    ∃ b w', (∀ depth, n < depth → ∀ next : Viewing Address, StateT.run (do
        let b ← step depth
        modify (·.update v.messages.length (change b))
        next) w = next.run w') ∧
      w'.Ready files n ∧ w.Extends w' ∧ (v.addMessage (change b node)).Grown files w' ∧ shown w' b := by
  obtain ⟨b, u, run, more, here⟩ := makes w ready
  have same := (Extends.update (keeps b) u v.messages.length).1
  have inside : v.messages.length < (v.addMessage node).messages.length := by simp [addMessage]
  refine ⟨b, u.update v.messages.length (change b), fun depth beyond next => ?_,
    (ready.grown more).update _ (keeps b), more.toExtends.trans same, ?_, lasting _ _ same b here⟩
  · simp [run depth beyond]
  · -- Filling the object first and then making what it holds comes to the same.
    rw [← update_addMessage]
    exact (grown.trans more).update inside (keeps b)

variable (files) in
/-- Whether each message can be made while at most so many are lacking. -/
def MakesMessages (n : Nat) : Prop := ∀ m ∈ declaredMessages files,
  Makes files n (fun depth => viewMessage files depth m) fun w a => w.MessageAt m a

theorem makes_reference (coherent : Coherent files) {n : Nat} {r : MessageRef} (known : Known files r)
    (messages : MakesMessages files n) :
    Makes files n (fun depth => viewReference files (viewMessage files depth) r)
      fun w a => w.ReferenceAt r a := by
  obtain ⟨m, member, rfl, found⟩ := coherent.target known
  have direct (depth : Nat) :
      viewReference files (viewMessage files depth) m.ref = viewMessage files depth m := by
    rw [viewReference, found]
    rfl
  simp only [direct]
  exact messages m member

theorem makes_field (coherent : Coherent files) {n : Nat} {f : FieldDecl}
    (enums : ∀ e ∈ f.enum, e ∈ Schema.declaredEnums files) (known : ∀ r ∈ f.message, Known files r)
    (messages : MakesMessages files n) :
    Makes files n (fun depth => viewField files (viewMessage files depth) f)
      fun w node => w.ShowsField f node := by
  have enum : Makes files n (fun _ => f.enum.mapM viewEnum) fun w a => Option.Rel w.EnumAt f.enum a :=
    .option fun e member => makes_enum (enums e member)
  have message : Makes files n (fun depth => f.message.mapM (viewReference files (viewMessage files depth)))
      fun w a => Option.Rel w.ReferenceAt f.message a :=
    .option fun r member => makes_reference coherent (known r member) messages
  refine (enum.bind (lasting_option lasting_enum _) fun e =>
    message.bind (lasting_option lasting_reference _) fun m =>
      makes_pure (⟨f.name, f.number, f.kind, f.cardinality, e, m⟩ : FieldNode)).imp ?_
  rintro w _ ⟨e, enum, m, message, rfl⟩
  exact ⟨rfl, rfl, rfl, rfl, enum, message⟩

theorem makes_known {m : MessageDecl} {a : Address} (fit : v.Fit files) (found : v.messageAt? m.fullName = some a)
    (n : Nat) : ∃ b w, (∀ depth, n < depth → (viewMessage files depth m).run v = some (b, w)) ∧
      v.Grown files w ∧ w.MessageAt m b := by
  refine ⟨a, v, fun depth beyond => ?_, .refl fit, found⟩
  obtain ⟨depth, rfl⟩ := Nat.exists_eq_add_one_of_ne_zero (Nat.ne_zero_of_lt beyond)
  rw [viewMessage]
  simp [found]

/-- A message that is not registered is made if what it holds can be made after that. -/
theorem makes_new (coherent : Coherent files) {n : Nat} (each : MakesMessages files n) {m : MessageDecl}
    (member : m ∈ declaredMessages files) (absent : v.messageAt? m.fullName = none)
    (ready : (v.addMessage m.blank).Ready files n) :
    ∃ a w, (∀ depth, n + 1 < depth → (viewMessage files depth m).run v = some (a, w)) ∧
      v.Grown files w ∧ w.MessageAt m a := by
  have known := coherent.fields m member
  have fields : Makes files n (fun depth => m.fields.mapM (viewField files (viewMessage files depth)))
      fun w nodes => List.Forall₂ w.ShowsField m.fields nodes :=
    .mapM lasting_field fun f inside => makes_field coherent (known f inside).1 (known f inside).2 each
  have messages : Makes files n (fun depth => m.messages.mapM (viewMessage files depth))
      fun w as => List.Forall₂ w.MessageAt m.messages as :=
    .mapM lasting_message fun inner inside => each inner (declaredMessages_inner member inside)
  have enums : Makes files n (fun _ => m.enums.mapM viewEnum) fun w as => List.Forall₂ w.EnumAt m.enums as :=
    makes_enums fun e inside => declaredEnums_inner member inside
  -- The blank object stays where it was added, and each row fills it in the view that it leaves.
  obtain ⟨fieldNodes, v₁, run₁, ready₁, -, grown₁, shown₁⟩ :=
    fields.fill (lasting_row lasting_field _) keepsName_fields ready (.refl ready.fit)
  obtain ⟨nested, v₂, run₂, ready₂, ext₂, grown₂, shown₂⟩ :=
    messages.fill (lasting_row lasting_message _) keepsName_messages ready₁ grown₁
  obtain ⟨listed, v₃, run₃, ready₃, ext₃, grown₃, shown₃⟩ :=
    enums.fill (lasting_row lasting_enum _) keepsName_enums ready₂ grown₂
  refine ⟨v.messages.length, v₃, fun depth beyond => ?_, grown₃.of_addMessage ⟨m, member, ?_⟩, ?_⟩
  · obtain ⟨depth, rfl⟩ := Nat.exists_eq_add_one_of_ne_zero (Nat.ne_zero_of_lt beyond)
    have inner := Nat.lt_of_succ_lt_succ beyond
    have run := (run₁ depth inner _).trans ((run₂ depth inner _).trans
      (run₃ depth inner (pure v.messages.length)))
    rw [viewMessage]
    simpa [absent] using run
  · exact {
      name := rfl
      fullName := rfl
      file := rfl
      package := rfl
      isMapEntry := rfl
      fields := lasting_row lasting_field _ _ _ (ext₂.trans ext₃) _ shown₁
      messages := lasting_row lasting_message _ _ _ ext₃ _ shown₂
      enums := shown₃ }
  · exact grown₃.toExtends.messageAt? (messageAt?_addMessage rfl absent)

/-- A step that makes a message comes to an end: each one that is not registered yet is one less that
can be reached. -/
theorem makes_messages (coherent : Coherent files) (n : Nat) : MakesMessages files n := by
  -- A view that lacks nothing has registered each message already.
  induction n with
  | zero =>
    intro m member v ready
    cases found : v.messageAt? m.fullName with
    | some a => exact makes_known ready.fit found 0
    | none =>
      have more := (ready.fit.addMessage member found (rfl : m.blank.fullName = m.fullName)).length_le
      have lacks := ready.lacks
      simp only [addMessage, List.length_append, List.length_singleton] at more
      omega
  | succ n ih =>
    intro m member v ready
    cases found : v.messageAt? m.fullName with
    | some a => exact makes_known ready.fit found (n + 1)
    | none =>
      refine makes_new coherent ih member found ⟨ready.fit.addMessage member found rfl, ?_⟩
      have lacks := ready.lacks
      simp only [addMessage, List.length_append, List.length_singleton]
      omega

/-! ### Whole files -/

theorem makes_method (coherent : Coherent files) {n : Nat} {m : MethodDecl}
    (known : Known files m.input ∧ Known files m.output) :
    Makes files n (fun depth => viewMethod files (viewMessage files depth) m)
      fun w node => w.ShowsMethod m node := by
  have input := makes_reference coherent known.1 (makes_messages coherent n)
  have output := makes_reference coherent known.2 (makes_messages coherent n)
  refine (input.bind (lasting_reference _) fun i => output.bind (lasting_reference _) fun o =>
    makes_pure (⟨m.name, i, o, m.serverStreaming⟩ : MethodNode)).imp ?_
  rintro w _ ⟨i, input, o, output, rfl⟩
  exact ⟨rfl, input, output, rfl⟩

theorem makes_service (coherent : Coherent files) {n : Nat} {s : ServiceDecl}
    (known : ∀ m ∈ s.methods, Known files m.input ∧ Known files m.output) :
    Makes files n (fun depth => viewService files (viewMessage files depth) s)
      fun w node => w.ShowsService s node := by
  have methods : Makes files n (fun depth => s.methods.mapM (viewMethod files (viewMessage files depth)))
      fun w nodes => List.Forall₂ w.ShowsMethod s.methods nodes :=
    .mapM lasting_method fun m member => makes_method coherent (known m member)
  refine (methods.bind (lasting_row lasting_method _) fun nodes =>
    makes_pure (⟨s.name, s.fullName, nodes⟩ : ServiceNode)).imp ?_
  rintro w _ ⟨nodes, shown, rfl⟩
  exact ⟨rfl, rfl, shown⟩

theorem makes_file (coherent : Coherent files) {n : Nat} {f : SchemaFile} (member : f ∈ files) :
    Makes files n (fun depth => viewFile files (viewMessage files depth) f)
      fun w node => w.ShowsFile f node := by
  have enums : Makes files n (fun _ => f.enums.mapM viewEnum) fun w as => List.Forall₂ w.EnumAt f.enums as :=
    makes_enums fun e inside => declaredEnums_top member inside
  have messages : Makes files n (fun depth => f.messages.mapM (viewMessage files depth))
      fun w as => List.Forall₂ w.MessageAt f.messages as :=
    .mapM lasting_message fun m inside => makes_messages coherent n m (declaredMessages_top member inside)
  have services : Makes files n
      (fun depth => f.services.mapM (viewService files (viewMessage files depth)))
      fun w nodes => List.Forall₂ w.ShowsService f.services nodes :=
    .mapM lasting_service fun s inside => makes_service coherent (coherent.methods f member s inside)
  refine (enums.bind (lasting_row lasting_enum _) fun es =>
    messages.bind (lasting_row lasting_message _) fun ms =>
      services.bind (lasting_row lasting_service _) fun ss =>
        makes_pure (⟨f.name, f.package, f.generate, es, ms, ss⟩ : FileNode)).imp ?_
  rintro w _ ⟨es, enums, ms, messages, ss, services, rfl⟩
  exact ⟨rfl, rfl, rfl, enums, messages, services⟩

/-- The graph of coherent files can be made, and is the same at every depth beyond the number of their
messages. -/
theorem viewFiles_reaches (coherent : Coherent files) : ∃ nodes v,
    (∀ depth, (declaredMessages files).length < depth → viewFiles depth files = some (nodes, v)) ∧
      Grown files {} v ∧ List.Forall₂ v.ShowsFile files nodes := by
  have makes : Makes files (declaredMessages files).length
      (fun depth => files.mapM (viewFile files (viewMessage files depth)))
      fun w nodes => List.Forall₂ w.ShowsFile files nodes :=
    .mapM lasting_file fun f member => makes_file coherent member
  have empty : Fit files {} := ⟨List.nodup_nil, List.nil_subset _, List.nodup_nil, List.nil_subset _⟩
  exact makes {} ⟨empty, by simp⟩

end

end View

end RpcBindings.Schema
