import RpcBindings.Proofs.Outcome
import RpcBindings.Template.Render

/-! Shapes of values: what a template may do with a value. A template that passes the check of its
shapes can be filled in with any names of those shapes, whichever of its branches are reached. -/
namespace RpcBindings.Template

open Outcome
open Text (CodePoints)

/-- What a template may do with a value. -/
inductive Shape where
  /-- Test it. -/
  | any
  /-- Print it. -/
  | leaf
  /-- Loop over its items. -/
  | row (item : Shape)
  /-- Take its members. -/
  | object (members : List (String × Shape))
  /-- Call it on an object with a name, which gives a text. -/
  | route

/-- A property of texts that the texts written by a template inherit from those put into it. -/
structure Inherited (good : CodePoints → Prop) : Prop where
  string : ∀ s, good (.string s)
  append : ∀ {s t}, good s → good t → good (s ++ t)

mutual

/-- Whether a value has a shape, all texts that it is printed as being good. -/
def Shape.Fits (good : CodePoints → Prop) : Shape → Value → Prop
  | any, _ => True
  | leaf, v => good (shown v) ∧ good v.asText
  | row item, v => ∃ all, items v = .ok all ∧ ∀ w ∈ all, Fits good item w
  | object members, v => MembersFit good members v
  | route, v => ∃ name stem owner, v = .method name (.routing stem) owner

/-- Whether a value holds members of the given shapes. -/
def Shape.MembersFit (good : CodePoints → Prop) : List (String × Shape) → Value → Prop
  | [], _ => True
  | (name, shape) :: rest, v =>
    (∃ w, held? v name = some w ∧ Fits good shape w) ∧ MembersFit good rest v

end

/-- Names with their shapes, inner ones first. -/
abbrev Shapes := List (String × Shape)

/-- Whether every name that has a shape stands for a value of that shape. -/
def Shapes.Fit (good : CodePoints → Prop) (shapes : Shapes) (scope : Scope) : Prop :=
  ∀ name shape, shapes.lookup name = some shape →
    ∃ v, scope.lookup name = some v ∧ shape.Fits good v

/-- The shape of what a loop knows about its round. -/
def loopShape : Shape := .object [("first", .leaf)]

def Shapes.inLoop (shapes : Shapes) (name : String) (item : Shape) : Shapes :=
  (name, item) :: ("loop", loopShape) :: shapes

/-- The shape of an expression, if its parts allow it. -/
def Expr.shape? (shapes : Shapes) : Expr → Option Shape
  | literal _ => some .any
  | var name => shapes.lookup name
  | member object name =>
    match object.shape? shapes with
    | some (.object members) => members.lookup name
    | _ => none
  | call function argument =>
    match function.shape? shapes, argument.shape? shapes with
    | some .route, some (.object members) =>
      match members.lookup "name" with
      | some .leaf => some .leaf
      | _ => none
    | _, _ => none
  | not e => (e.shape? shapes).map fun _ => .leaf
  | and left right | or left right =>
    match left.shape? shapes, right.shape? shapes with
    | some _, some _ => some .any
    | _, _ => none
  | equal left right =>
    match left.shape? shapes, right.shape? shapes with
    | some _, some _ => some .leaf
    | _, _ => none

mutual

/-- Whether a part only does what the shapes of its names allow. -/
def Node.passes (shapes : Shapes) : Node → Bool
  | .text _ => true
  | .print e =>
    match e.shape? shapes with
    | some .leaf => true
    | _ => false
  | .choice test yes no => (test.shape? shapes).isSome && allPass shapes yes && allPass shapes no
  | .loop name source body empty =>
    match source.shape? shapes with
    | some (.row item) => allPass (shapes.inLoop name item) body && allPass shapes empty
    | _ => false

def allPass (shapes : Shapes) : List Node → Bool
  | [] => true
  | node :: rest => node.passes shapes && allPass shapes rest

end

section

variable {good : CodePoints → Prop} {shapes : Shapes} {scope : Scope}

/-- A member that an object holds comes before those that it has by its type. -/
theorem attributeOf_held {v w : Value} {name : String} (holds : held? v name = some w) :
    attributeOf v name = .ok w := by
  simp [attributeOf, holds]

theorem membersFit_lookup {members : List (String × Shape)} {v : Value} {name : String}
    {shape : Shape} (fits : Shape.MembersFit good members v)
    (found : members.lookup name = some shape) :
    ∃ w, held? v name = some w ∧ shape.Fits good w := by
  induction members with
  | nil => cases found
  | cons entry rest ih =>
    rcases entry with ⟨key, first⟩
    obtain ⟨here, there⟩ := fits
    by_cases same : name = key
    · subst same
      have equal : first = shape := by simpa [List.lookup_cons] using found
      exact equal ▸ here
    · refine ih there ?_
      simpa [List.lookup_cons, beq_false_of_ne same] using found

theorem bool_fits (inherited : Inherited good) (b : Bool) : Shape.leaf.Fits good (.bool b) :=
  ⟨inherited.string _, inherited.string _⟩

theorem text_fits {s : CodePoints} (fine : good s) : Shape.leaf.Fits good (.text s) := ⟨fine, fine⟩

/-- A value can be looped over if each of its items has the shape for it. -/
theorem row_fits {α : Type} {item : Shape} {view : α → Value} {parts : List α} {v : Value}
    (found : items v = .ok (parts.map view)) (each : ∀ x ∈ parts, item.Fits good (view x)) :
    (Shape.row item).Fits good v := by
  refine ⟨parts.map view, found, ?_⟩
  intro w member
  obtain ⟨x, part, rfl⟩ := List.mem_map.mp member
  exact each x part

/-- An expression with a shape has a value of that shape. -/
theorem Expr.eval_fits (inherited : Inherited good) (fit : shapes.Fit good scope) :
    ∀ {e : Expr} {shape : Shape}, e.shape? shapes = some shape →
      ∃ v, e.eval scope = .ok v ∧ shape.Fits good v := by
  intro e
  induction e with
  | literal v =>
    rintro _ ⟨⟩
    exact ⟨v, rfl, trivial⟩
  | var name =>
    intro shape typed
    obtain ⟨v, found, fits⟩ := fit name shape typed
    exact ⟨v, by simp [eval, found], fits⟩
  | member object name ih =>
    intro shape typed
    rw [shape?] at typed
    split at typed
    case h_1 members inner =>
      obtain ⟨v, evaluated, fits⟩ := ih inner
      obtain ⟨w, holds, fits⟩ := membersFit_lookup fits typed
      exact ⟨w, by simp [eval, evaluated, attributeOf_held holds], fits⟩
    case h_2 => cases typed
  | call function argument callee actual =>
    intro shape typed
    rw [shape?] at typed
    split at typed
    case h_1 members callable passed =>
      split at typed
      case h_1 named =>
        cases typed
        obtain ⟨f, calling, name, stem, owner, rfl⟩ := callee callable
        obtain ⟨v, passing, fits⟩ := actual passed
        obtain ⟨w, holds, -, fine⟩ := membersFit_lookup fits named
        refine ⟨.text (.string stem ++ w.asText), ?_, text_fits ?_⟩
        · simp [eval, calling, passing, applyTo, holds]
        · exact inherited.append (inherited.string stem) fine
      case h_2 => cases typed
    case h_2 => cases typed
  | not e ih =>
    intro shape typed
    obtain ⟨inner, operand, rfl⟩ := Option.map_eq_some_iff.mp typed
    obtain ⟨v, evaluated, -⟩ := ih operand
    exact ⟨.bool !v.truthy, by simp [eval, evaluated], bool_fits inherited _⟩
  | and left right first second =>
    intro shape typed
    rw [shape?] at typed
    split at typed
    case h_1 here there =>
      cases typed
      obtain ⟨v, evaluated, -⟩ := first here
      obtain ⟨w, after, -⟩ := second there
      by_cases holds : v.truthy = true
      · exact ⟨w, by simp [eval, evaluated, after, holds], trivial⟩
      · exact ⟨v, by simp [eval, evaluated, holds], trivial⟩
    case h_2 => cases typed
  | or left right first second =>
    intro shape typed
    rw [shape?] at typed
    split at typed
    case h_1 here there =>
      cases typed
      obtain ⟨v, evaluated, -⟩ := first here
      obtain ⟨w, after, -⟩ := second there
      by_cases holds : v.truthy = true
      · exact ⟨v, by simp [eval, evaluated, holds], trivial⟩
      · exact ⟨w, by simp [eval, evaluated, after, holds], trivial⟩
    case h_2 => cases typed
  | equal left right first second =>
    intro shape typed
    rw [shape?] at typed
    split at typed
    case h_1 here there =>
      cases typed
      obtain ⟨v, evaluated, -⟩ := first here
      obtain ⟨w, after, -⟩ := second there
      exact ⟨.bool (v.same w), by simp [eval, evaluated, after], bool_fits inherited _⟩
    case h_2 => cases typed

/-! ### Whole templates -/

theorem loopRecord_fits (inherited : Inherited good) (all : List Value) (index : Nat) :
    loopShape.Fits good (loopRecord all index) :=
  ⟨⟨.bool (index == 0), rfl, bool_fits inherited _⟩, trivial⟩

theorem Shapes.fit_nil (scope : Scope) : Shapes.Fit good [] scope := nofun

theorem Shapes.Fit.cons (fit : shapes.Fit good scope) {shape : Shape} {v : Value}
    (fits : shape.Fits good v) (name : String) :
    Shapes.Fit good ((name, shape) :: shapes) ((name, v) :: scope) := by
  intro key other found
  by_cases same : key = name
  · subst same
    have equal : shape = other := by simpa [List.lookup_cons] using found
    exact ⟨v, by simp, equal ▸ fits⟩
  · have outer : shapes.lookup key = some other := by
      simpa [List.lookup_cons, beq_false_of_ne same] using found
    obtain ⟨w, holds, fits⟩ := fit key other outer
    exact ⟨w, by simpa [List.lookup_cons, beq_false_of_ne same] using holds, fits⟩

theorem loopScope_fit (inherited : Inherited good) (fit : shapes.Fit good scope) {item : Shape}
    {w : Value} (fits : item.Fits good w) (name : String) (all : List Value) (index : Nat) :
    (shapes.inLoop name item).Fit good (loopScope scope name all index w) :=
  (fit.cons (loopRecord_fits inherited all index) "loop").cons fits name

/-- The rounds of a loop give a good text if each of them does. -/
theorem rounds_good (inherited : Inherited good)
    {body : Nat → Value → Except RenderError CodePoints} {all : List Value}
    (each : ∀ index, ∀ w ∈ all, ∃ text, body index w = .ok text ∧ good text) (index : Nat) :
    ∃ text, rounds body index all = .ok text ∧ good text := by
  induction all generalizing index with
  | nil => exact ⟨_, rfl, inherited.string _⟩
  | cons w rest ih =>
    obtain ⟨here, done, fine⟩ := each index w List.mem_cons_self
    obtain ⟨there, after, more⟩ :=
      ih (fun index v member => each index v (List.mem_cons_of_mem w member)) (index + 1)
    exact ⟨here ++ there, by simp [rounds, done, after], inherited.append fine more⟩

mutual

/-- A part that passes the check gives a good text. -/
theorem Node.render_good (inherited : Inherited good) :
    ∀ (node : Node) (shapes : Shapes) (scope : Scope), shapes.Fit good scope →
      node.passes shapes = true → ∃ text, node.render scope = .ok text ∧ good text
  | .text s, _, _, _, _ => ⟨String.ofList s, rfl, inherited.string _⟩
  | .print e, shapes, scope, fit, passes => by
    rw [Node.passes] at passes
    split at passes
    case h_1 typed =>
      obtain ⟨v, evaluated, fine, -⟩ := e.eval_fits inherited fit typed
      exact ⟨shown v, by simp [Node.render, evaluated], fine⟩
    case h_2 => cases passes
  | .choice test yes no, shapes, scope, fit, passes => by
    simp only [Node.passes, Bool.and_eq_true] at passes
    obtain ⟨⟨typed, first⟩, second⟩ := passes
    obtain ⟨shape, typed⟩ := Option.isSome_iff_exists.mp typed
    obtain ⟨v, evaluated, -⟩ := test.eval_fits inherited fit typed
    obtain ⟨text, done, fine⟩ := renderAll_good inherited yes shapes scope fit first
    obtain ⟨other, also, good⟩ := renderAll_good inherited no shapes scope fit second
    by_cases holds : v.truthy = true
    · exact ⟨text, by simp [Node.render, evaluated, holds, done], fine⟩
    · exact ⟨other, by simp [Node.render, evaluated, holds, also], good⟩
  | .loop name source body empty, shapes, scope, fit, passes => by
    rw [Node.passes] at passes
    split at passes
    case h_1 item typed =>
      obtain ⟨inside, none⟩ := Bool.and_eq_true_iff.mp passes
      obtain ⟨v, evaluated, all, found, each⟩ := source.eval_fits inherited fit typed
      obtain ⟨text, done, fine⟩ := renderAll_good inherited empty shapes scope fit none
      have round (index : Nat) (w : Value) (member : w ∈ all) :=
        renderAll_good inherited body _ _
          (loopScope_fit inherited fit (each w member) name all index) inside
      obtain ⟨looped, also, good⟩ := rounds_good inherited round 0
      cases all with
      | nil => exact ⟨text, by simp [Node.render, evaluated, found, done], fine⟩
      | cons w rest => exact ⟨looped, by simpa [Node.render, evaluated, found] using also, good⟩
    case h_2 => cases passes

/-- Parts that pass the check give a good text. -/
theorem renderAll_good (inherited : Inherited good) :
    ∀ (nodes : List Node) (shapes : Shapes) (scope : Scope), shapes.Fit good scope →
      allPass shapes nodes = true → ∃ text, renderAll scope nodes = .ok text ∧ good text
  | [], _, _, _, _ => ⟨.string "", rfl, inherited.string _⟩
  | node :: rest, shapes, scope, fit, passes => by
    simp only [allPass, Bool.and_eq_true] at passes
    obtain ⟨here, done, fine⟩ := node.render_good inherited shapes scope fit passes.1
    obtain ⟨there, after, more⟩ := renderAll_good inherited rest shapes scope fit passes.2
    exact ⟨here ++ there, by simp [renderAll, done, after], inherited.append fine more⟩

end

/-- What a part gives stands in the text of the whole. -/
theorem codes_renderAll {nodes : List Node} {node : Node} {text part : CodePoints}
    (member : node ∈ nodes) (rendered : renderAll scope nodes = .ok text)
    (here : node.render scope = .ok part) {code : Nat} (written : code ∈ part.codes) :
    code ∈ text.codes := by
  induction nodes generalizing text with
  | nil => cases member
  | cons first rest ih =>
    simp only [renderAll, bind_ok_iff, pure_ok, Except.ok.injEq] at rendered
    obtain ⟨front, done, back, after, rfl⟩ := rendered
    rw [Text.CodePoints.codes_append, List.mem_append]
    rcases List.mem_cons.mp member with rfl | later
    · cases done.symm.trans here
      exact .inl written
    · exact .inr (ih later after)

end

end RpcBindings.Template
