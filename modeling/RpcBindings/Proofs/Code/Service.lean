import RpcBindings.Proofs.Code.Idiom

/-! What the code for services says: for every service the members of its client, then those of its
handler, then the cases of its router, each in the order of the methods. -/
namespace RpcBindings.Code

open Template Stub Schema
open Text (CodePoints)

/-- The words in the code for a method of a service. -/
def Slot.wordIn (s : Service) (m : Method) : Slot → List Char
  | service => s.name.toList
  | name => m.memberName.toList
  | input => m.input.chars
  | output => m.output.chars
  | route => (s.route m).toList

/-- Whether names of a service and its methods can be told from the code around them. -/
structure Worded (s : Service) : Prop where
  name : IsWord s.name.toList
  methods : ∀ m ∈ s.methods, ∀ slot : Slot, IsWord (slot.wordIn s m)

/-- Facts about each method of a service. -/
def aboutMethods (s : Service) (told : Method → List (Fact Role Slot)) :
    List (Fact Role (List Char)) :=
  s.methods.flatMap fun m => (told m).map (Fact.map (Slot.wordIn s m))

namespace Idiom

variable (idiom : Idiom)

/-- What the client of a service says. -/
def clientOf (s : Service) : List (Fact Role (List Char)) :=
  aboutMethods s fun m => idiom.member m.serverStreaming

/-- What the handler of a service says. -/
def handlerOf (s : Service) : List (Fact Role (List Char)) :=
  aboutMethods s fun m => signature m.serverStreaming

/-- What the router of a service says. -/
def routerOf (s : Service) : List (Fact Role (List Char)) :=
  aboutMethods s fun m => idiom.opening ++ answering m.serverStreaming

def serviceFacts (s : Service) : List (Fact Role (List Char)) :=
  idiom.clientOf s ++ handlerOf s ++ idiom.routerOf s

end Idiom

/-! ### Services as they are declared -/

section

variable (typePrefix : String) (s : ServiceDecl)

/-- The words that belong in the code for a declared method: its name with the first letter in
lowercase, the names of its messages behind the prefix of the file, and its route. -/
def Slot.declaredIn (m : MethodDecl) : Slot → List Char
  | service => s.name.toList
  | name => Identifier.lowerFirst m.name.toList
  | input => (typePrefix ++ m.input.name).toList
  | output => (typePrefix ++ m.output.name).toList
  | route => (s.name ++ "/" ++ m.name).toList

/-- Facts about each method that a service declares, by whether it answers with a stream. -/
def aboutDeclared (told : Bool → List (Fact Role Slot)) : List (Fact Role (List Char)) :=
  s.methods.flatMap fun m =>
    (told m.serverStreaming).map (Fact.map (Slot.declaredIn typePrefix s m))

/-- What belongs in the code for a declared service: the members of the client, then those of the
handler, then the cases of the router. -/
def Idiom.declaredFacts (idiom : Idiom) : List (Fact Role (List Char)) :=
  aboutDeclared typePrefix s idiom.member ++ aboutDeclared typePrefix s signature ++
    aboutDeclared typePrefix s fun streaming => idiom.opening ++ answering streaming

variable {typePrefix s}

theorem wordIn_buildMethod (m : MethodDecl) (slot : Slot) :
    slot.wordIn (buildService typePrefix s) (buildMethod typePrefix m) =
      slot.declaredIn typePrefix s m := by
  cases slot with
  | service => rfl
  | name => exact Text.toList_onString _ _
  | input | output => simp [Slot.wordIn, Slot.declaredIn, buildMethod]
  | route => rfl

theorem aboutMethods_buildService (told : Bool → List (Fact Role Slot)) :
    aboutMethods (buildService typePrefix s) (fun m => told m.serverStreaming) =
      aboutDeclared typePrefix s told := by
  have words (m : MethodDecl) : Slot.wordIn (buildService typePrefix s) (buildMethod typePrefix m) =
      Slot.declaredIn typePrefix s m := funext (wordIn_buildMethod m)
  have methods : (buildService typePrefix s).methods = s.methods.map (buildMethod typePrefix) := rfl
  simp only [aboutMethods, methods, List.flatMap_map, words]
  rfl

/-- A service is built with all that belongs in its code. -/
theorem Idiom.serviceFacts_buildService (idiom : Idiom) :
    idiom.serviceFacts (buildService typePrefix s) = idiom.declaredFacts typePrefix s := by
  rw [serviceFacts, clientOf, handlerOf, routerOf, aboutMethods_buildService,
    aboutMethods_buildService,
    aboutMethods_buildService fun streaming => idiom.opening ++ answering streaming]
  rfl

end

/-! ### Words as the template finds them -/

section

variable {scope : Scope} {s : Service}

theorem eval_service (named : scope.lookup "service" = some s.view) :
    Slot.service.expr.eval scope = .ok (.text s.name) := by
  simp only [Slot.expr, Expr.eval, named]
  rfl

theorem eval_methods (named : scope.lookup "service" = some s.view) :
    (Expr.member (.var "service") "methods").eval scope =
      .ok (.tuple (s.methods.map (·.view))) := by
  simp only [Expr.eval, named]
  rfl

theorem eval_services {f : File} (named : scope.lookup "file" = some f.view) :
    (Expr.member (.var "file") "services").eval scope =
      .ok (.tuple (f.services.map (·.view))) := by
  simp only [Expr.eval, named]
  rfl

theorem word_service (named : scope.lookup "service" = some s.view) :
    wording.word scope .service = s.name.toList := by
  rw [Wording.word_of_eval (eval_service named), CodePoints.chars_string]

theorem word_method (named : scope.lookup "service" = some s.view) (m : Method) (all : List Value)
    (index : Nat) (slot : Slot) :
    wording.word (loopScope scope "method" all index m.view) slot = slot.wordIn s m := by
  have owner : (loopScope scope "method" all index m.view).lookup "service" = some s.view := named
  cases slot with
  | service => exact word_service owner
  | name => exact (Wording.word_of_eval (t := m.memberName) rfl).trans (CodePoints.chars_string _)
  | input => exact Wording.word_of_eval (t := m.input) rfl
  | output => exact Wording.word_of_eval (t := m.output) rfl
  | route =>
    have evaluated : Slot.route.expr.eval (loopScope scope "method" all index m.view) =
        .ok (.text (s.route m)) := by
      simp only [Slot.expr, Expr.eval, owner]
      rfl
    exact (Wording.word_of_eval evaluated).trans (CodePoints.chars_string _)

/-! ### Outlines -/

/-- A loop over the methods of a service says of each of them what its rounds do. -/
theorem tells_eachMethod (named : scope.lookup "service" = some s.view) (worded : Worded s)
    (before : List (Fact Role Slot)) (told : Bool → List (Fact Role Slot)) :
    (Idiom.eachMethod before told).Tells wording scope
      (aboutMethods s fun m => before ++ told m.serverStreaming) := by
  refine Outline.tells_loop (eval_methods named) (fun m member index => ?_) rfl
    (List.append_nil _).symm
  have words := funext (word_method named m (s.methods.map (·.view)) index)
  have filled (row : List (Fact Role Slot)) : ∀ fact ∈ row, ∀ slot ∈ fact.words, IsWord
      (wording.word (loopScope scope "method" (s.methods.map (·.view)) index m.view) slot) := by
    intro fact _ slot _
    rw [words]
    exact worded.methods m member slot
  have streaming : (Expr.member (.var "method") "server_streaming").eval
      (loopScope scope "method" (s.methods.map (·.view)) index m.view) =
      .ok (.bool m.serverStreaming) := rfl
  refine Outline.tells_tell.mpr ⟨filled before,
    (told m.serverStreaming).map (Fact.map (Slot.wordIn s m)), ?_, ?_⟩
  · rw [words, List.map_append]
  · refine ⟨_, _, [], streaming, (List.append_nil _).symm, ?_, ?_, rfl⟩
    all_goals
      intro taken
      rw [show m.serverStreaming = _ from taken]
      refine Outline.tells_tell.mpr ⟨filled _, [], ?_, rfl⟩
      rw [words, List.append_nil]

theorem tells_ofService (idiom : Idiom) (named : scope.lookup "service" = some s.view)
    (worded : Worded s) : idiom.ofService.Tells wording scope (idiom.serviceFacts s) := by
  have heading : (Outline.word .service .nothing : Outline Role Slot).Tells wording scope [] :=
    ⟨(word_service named).symm ▸ worded.name, rfl⟩
  have client := tells_eachMethod named worded [] idiom.member
  have handler := tells_eachMethod named worded [] Idiom.signature
  have router := tells_eachMethod named worded idiom.opening Idiom.answering
  simp only [Idiom.ofService, List.foldr_cons, List.foldr_nil, Outline.tells_append]
  refine ⟨[], _, (List.nil_append _).symm, heading, idiom.clientOf s, _, ?_, client,
    [], _, (List.nil_append _).symm, heading, Idiom.handlerOf s, _, rfl, handler,
    [], _, (List.nil_append _).symm, heading, idiom.routerOf s, [], (List.append_nil _).symm,
    router, rfl⟩
  rw [Idiom.serviceFacts, List.append_assoc]

/-- The outline of a file says of each of its services what the code for it says. -/
theorem tells_ofFile (idiom : Idiom) {f : File} (named : scope.lookup "file" = some f.view)
    (worded : ∀ s ∈ f.services, Worded s) :
    idiom.ofFile.Tells wording scope (f.services.flatMap idiom.serviceFacts) :=
  Outline.tells_loop (eval_services named)
    (fun s member _ => tells_ofService idiom rfl (worded s member)) rfl (List.append_nil _).symm

end

end RpcBindings.Code
