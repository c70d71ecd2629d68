import RpcBindings.Proofs.Code.Service
import RpcBindings.Proofs.Code.Ways

/-! How types are declared in Kotlin: an enum opens an enum class, a message is a data class or, if
it has no fields, a plain one. The template of the language has such a line for every enum and every
message of a file, whatever stands around it, and no other line of it looks like one. -/
namespace RpcBindings

open Template
open Text (CodePoints)

namespace Code

inductive TypeKind where
  | enum
  | message
  deriving DecidableEq, Repr

namespace TypeKind

/-- The name by which a template goes through the types of a kind. -/
def item : TypeKind → String
  | enum => "enum"
  | message => "message"

/-- The member of a file that holds its types of a kind. -/
def row : TypeKind → String
  | enum => "enums"
  | message => "messages"

end TypeKind

/-- The words around declarations of types: the name of the type that is gone through, and those in
the code for services. -/
inductive TypeSlot where
  | type (kind : TypeKind)
  | service (slot : Slot)
  deriving DecidableEq, Repr

def TypeSlot.expr : TypeSlot → Expr
  | type kind => .member (.var kind.item) "name"
  | service slot => slot.expr

def TypeSlot.of? : Expr → Option TypeSlot
  | .member (.var "enum") "name" => some (type .enum)
  | .member (.var "message") "name" => some (type .message)
  | e => (Slot.of? e).map service

def typeWording : Wording TypeSlot where
  expr := TypeSlot.expr
  slot? := TypeSlot.of?
  expr_of_slot? := by
    intro e s found
    unfold TypeSlot.of? at found
    split at found
    case h_1 => cases found; rfl
    case h_2 => cases found; rfl
    case h_3 =>
      obtain ⟨slot, known, rfl⟩ := Option.map_eq_some_iff.mp found
      exact wording.expr_of_slot? known

/-- The lines that declare types in Kotlin. -/
def declarations : List (Phrase TypeKind TypeSlot) := [
  ⟨code "enum class " ++ gap (.type .enum) ++ code " \x7b", [⟨.enum, [.type .enum]⟩]⟩,
  ⟨code "data class " ++ gap (.type .message) ++ code "(", [⟨.message, [.type .message]⟩]⟩,
  ⟨code "class " ++ gap (.type .message), [⟨.message, [.type .message]⟩]⟩]

theorem clear_declarations : ∀ p ∈ declarations, p.isClear = true := by decide +kernel

/-- What is said of a type that is declared. -/
def declared {α : Type} (kind : TypeKind) (name : α) : Fact TypeKind α := ⟨kind, [name]⟩

/-- Whether a text has a line that declares a type of some kind by some name. -/
def DeclaresType (text : List Char) (kind : TypeKind) (name : String) : Prop :=
  declared kind name.toList ∈ readText declarations text

/-! ### The template -/

/-- The outline of a loop over the types of a kind. -/
def eachType (kind : TypeKind) (body : Outline TypeKind TypeSlot) : Outline TypeKind TypeSlot :=
  .loop kind.item "file" kind.row body .nothing

/-- The outline of a declaration. -/
def declaring (kind : TypeKind) : Outline TypeKind TypeSlot :=
  .fact (declared kind (.type kind)) .nothing

/-- The outline of lines that declare nothing, but have words in them. -/
def mentioning (slots : List Slot) (next : Outline TypeKind TypeSlot) : Outline TypeKind TypeSlot :=
  slots.foldr (fun slot o => .word (.service slot) o) next

/-- The outline of a loop over the methods of a service, as far as types go: the words in each round,
and those besides for a stream of answers or for a single one. -/
def eachMention (before streaming single : List Slot) (next : Outline TypeKind TypeSlot) :
    Outline TypeKind TypeSlot :=
  .loop "method" "service" "methods"
    (mentioning before (.choice "method" "server_streaming" (mentioning streaming .nothing)
      (mentioning single .nothing) .nothing))
    next

/-- The outline of the code for a service, as far as types go. -/
def besideService : Outline TypeKind TypeSlot :=
  mentioning [.service] <|
    eachMention [] [.name, .input, .output, .route, .output] [.name, .input, .output, .route] <|
  mentioning [.service] <| eachMention [] [.name, .input, .output] [.name, .input, .output] <|
  mentioning [.service] <| eachMention [.route, .input] [.name] [.name] .nothing

/-- The outline of a file, as far as types go. -/
def typesOutline : Outline TypeKind TypeSlot :=
  (eachType .enum (declaring .enum)).append <|
    (eachType .message
      (.choice "message" "fields" (declaring .message) (declaring .message) .nothing)).append <|
    .loop "service" "file" "services" besideService .nothing

/-- Whether the parts of a template declare the types of a kind in a loop. -/
def declaresEach (nodes : List Template.Node) (kind : TypeKind) : Bool :=
  nodes.any
    (tellsEach typeWording declarations kind.item "file" kind.row (declared kind (.type kind)))

/-- Whether a template declares all types of a file and no others. -/
def declaresTypes (target : Target) (text : List Char) : Bool :=
  match parse text with
  | .ok nodes =>
    [TypeKind.enum, .message].all (declaresEach nodes) &&
      outlineAll declarations typeWording target.shapes [] nodes = some (typesOutline, [])
  | .error _ => false

-- The template is split into the characters of its lines, as where its shapes are checked.
set_option maxRecDepth 100000 in
theorem kotlin_declaresTypes : declaresTypes .kotlin Target.kotlin.template.toList = true := by
  have text : Target.kotlin.template.toList = _ := Target.toList_ofLines _
  rw [text]
  simp only [List.flatMap_cons, List.flatMap_nil]
  repeat rw [String.toList_ofList]
  decide +kernel

/-- What holds of the parts of a template that declares the types of a file. -/
theorem parts_of_declaresTypes {target : Target} {text : List Char} {nodes : List Template.Node}
    (declares : declaresTypes target text = true) (parsed : parse text = .ok nodes) :
    (∀ kind, declaresEach nodes kind = true) ∧
      outlineAll declarations typeWording target.shapes [] nodes = some (typesOutline, []) := by
  rw [declaresTypes, parsed] at declares
  obtain ⟨each, outlined⟩ := Bool.and_eq_true_iff.mp declares
  refine ⟨fun kind => ?_, of_decide_eq_true outlined⟩
  have all := List.all_eq_true.mp each
  cases kind with
  | enum => exact all .enum List.mem_cons_self
  | message => exact all .message (List.mem_cons_of_mem _ List.mem_cons_self)

/-! ### Types as the template finds them -/

section

variable {α : Type} {scope : Scope} {kind : TypeKind} {view : α → Value} {name : α → String}
  {all : List α}

/-- Whether a row of the file holds types of a kind, each with its name. -/
structure Listed (scope : Scope) (kind : TypeKind) (view : α → Value) (name : α → String)
    (all : List α) : Prop where
  found : (Expr.member (.var "file") kind.row).eval scope = .ok (.tuple (all.map view))
  named : ∀ x ∈ all, attributeOf (view x) "name" = .ok (.text (name x))

theorem listed_enums {file : Stub.File} (named : scope.lookup "file" = some file.view) :
    Listed scope .enum Stub.Enum.view Stub.Enum.name file.enums where
  found := by
    simp only [Expr.eval, named]
    rfl
  named _ _ := rfl

theorem listed_messages {file : Stub.File} (named : scope.lookup "file" = some file.view) :
    Listed scope .message Stub.Message.view Stub.Message.name file.messages where
  found := by
    simp only [Expr.eval, named]
    rfl
  named _ _ := rfl

theorem Listed.word (listed : Listed scope kind view name all) {x : α} (member : x ∈ all)
    (row : List Value) (index : Nat) :
    typeWording.word (loopScope scope kind.item row index (view x)) (.type kind) =
      (name x).toList := by
  have found : (loopScope scope kind.item row index (view x)).lookup kind.item = some (view x) := by
    simp [loopScope]
  have evaluated : (typeWording.expr (.type kind)).eval
      (loopScope scope kind.item row index (view x)) = .ok (.text (name x)) := by
    simp only [typeWording, TypeSlot.expr, Expr.eval, found]
    exact listed.named x member
  rw [Wording.word_of_eval evaluated, CodePoints.chars_string]

/-- What a declaration says of a type, if its name is a word. -/
theorem Listed.told (listed : Listed scope kind view name all) {x : α} (member : x ∈ all)
    (word : IsWord (name x).toList) (row : List Value) (index : Nat) :
    (∀ s ∈ (declared kind (TypeSlot.type kind)).words,
      IsWord (typeWording.word (loopScope scope kind.item row index (view x)) s)) ∧
    (declared kind (TypeSlot.type kind)).map
      (typeWording.word (loopScope scope kind.item row index (view x))) =
        declared kind (name x).toList := by
  have spelled := listed.word member row index
  constructor
  · intro slot only
    obtain rfl : slot = .type kind := List.mem_singleton.mp only
    rw [spelled]
    exact word
  · rw [declared, Fact.map, List.map_cons, List.map_nil, spelled]
    rfl

/-- A template that declares each type of a kind declares those that the file holds and that are
named by words, whatever else it gives. -/
theorem Listed.declaresType (listed : Listed scope kind view name all)
    {nodes : List Template.Node} {text : CodePoints} (declares : declaresEach nodes kind = true)
    (rendered : renderAll scope nodes = .ok text) {x : α} (member : x ∈ all)
    (word : IsWord (name x).toList) : DeclaresType text.chars kind (name x) := by
  have viewed : view x ∈ all.map view := List.mem_map_of_mem member
  have told := listed.told member word (all.map view)
  exact mem_readText_of_tellsEach clear_declarations declares rendered listed.found rfl viewed told

/-- A loop over the types of a kind declares each of them, if every round does. -/
theorem Listed.tells (listed : Listed scope kind view name all)
    (words : ∀ x ∈ all, IsWord (name x).toList) {body : Outline TypeKind TypeSlot}
    (rounds : ∀ x ∈ all, ∀ index,
      (declaring kind).Tells typeWording
        (loopScope scope kind.item (all.map view) index (view x)) [declared kind (name x).toList] →
      body.Tells typeWording
        (loopScope scope kind.item (all.map view) index (view x)) [declared kind (name x).toList]) :
    (eachType kind body).Tells typeWording scope
      (all.map fun x => declared kind (name x).toList) := by
  have each : (all.map fun x => declared kind (name x).toList) =
      (all.flatMap fun x => [declared kind (name x).toList]) ++ [] := by
    rw [List.append_nil]
    exact (List.flatMap_pure_eq_map _ _).symm
  refine Outline.tells_loop listed.found (fun x member index => ?_) rfl each
  apply rounds x member index
  obtain ⟨filled, same⟩ := listed.told member (words x member) (all.map view) index
  exact ⟨filled, [], same ▸ rfl, rfl⟩

end

/-! ### Services -/

section

variable {scope : Scope} {s : Stub.Service} {facts : List (Fact TypeKind (List Char))}
  {next : Outline TypeKind TypeSlot}

theorem tells_mentioning {slots : List Slot}
    (words : ∀ slot ∈ slots, IsWord (wording.word scope slot))
    (tells : next.Tells typeWording scope facts) :
    (mentioning slots next).Tells typeWording scope facts := by
  induction slots with
  | nil => exact tells
  | cons slot slots ih =>
    obtain ⟨here, later⟩ := List.forall_mem_cons.mp words
    exact ⟨here, ih later⟩

theorem tells_eachMention (named : scope.lookup "service" = some s.view) (worded : Worded s)
    (before streaming single : List Slot) (tells : next.Tells typeWording scope facts) :
    (eachMention before streaming single next).Tells typeWording scope facts := by
  have silent : facts = (s.methods.flatMap fun _ => []) ++ facts := by simp
  refine Outline.tells_loop (eval_methods named) (fun m member index => ?_) tells silent
  have words (slots : List Slot) : ∀ slot ∈ slots, IsWord
      (wording.word (loopScope scope "method" (s.methods.map (·.view)) index m.view) slot) := by
    intro slot _
    rw [word_method named]
    exact worded.methods m member slot
  apply tells_mentioning (words before)
  refine ⟨.bool m.serverStreaming, [], [], rfl, rfl, ?_, ?_, rfl⟩
  · exact fun _ => tells_mentioning (words streaming) rfl
  · exact fun _ => tells_mentioning (words single) rfl

/-- The code for a service declares no types. -/
theorem tells_besideService (named : scope.lookup "service" = some s.view) (worded : Worded s) :
    besideService.Tells typeWording scope [] := by
  have heading : ∀ slot ∈ [Slot.service], IsWord (wording.word scope slot) := by
    intro slot only
    obtain rfl := List.mem_singleton.mp only
    exact (word_service named).symm ▸ worded.name
  apply tells_mentioning heading
  apply tells_eachMention named worded
  apply tells_mentioning heading
  apply tells_eachMention named worded
  apply tells_mentioning heading
  exact tells_eachMention named worded _ _ _ rfl

end

/-- All that a file declares: its enums and then its messages. -/
def typeFacts (f : Stub.File) : List (Fact TypeKind (List Char)) :=
  f.enums.map (fun e => declared .enum e.name.toList) ++
    f.messages.map fun m => declared .message m.name.toList

theorem tells_typesOutline {scope : Scope} {f : Stub.File}
    (named : scope.lookup "file" = some f.view) (enums : ∀ e ∈ f.enums, IsWord e.name.toList)
    (messages : ∀ m ∈ f.messages, IsWord m.name.toList) (worded : ∀ s ∈ f.services, Worded s) :
    typesOutline.Tells typeWording scope (typeFacts f) := by
  have silent : [] = (f.services.flatMap fun _ => ([] : List (Fact TypeKind (List Char)))) ++ [] := by
    simp
  rw [typesOutline, Outline.tells_append]
  refine ⟨_, _, rfl, ?_, ?_⟩
  · exact (listed_enums named).tells enums fun _ _ _ tells => tells
  · rw [Outline.tells_append]
    refine ⟨_, [], (List.append_nil _).symm, ?_, ?_⟩
    · refine (listed_messages named).tells messages fun m _ index tells => ?_
      exact ⟨.tuple (m.fields.map (·.view)), _, [], rfl, (List.append_nil _).symm,
        fun _ => tells, fun _ => tells, rfl⟩
    · exact Outline.tells_loop (eval_services named)
        (fun s member index => tells_besideService rfl (worded s member)) rfl silent

end Code

end RpcBindings
