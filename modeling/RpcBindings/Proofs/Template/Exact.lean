import RpcBindings.Proofs.Template.Reads

/-! Parts of templates that are known to the letter: a check that they are the same as others, and the
strings that they give. A part gives a string if all that it prints is one. -/
namespace RpcBindings.Template

open Outcome
open Text (CodePoints)

/-! ### Parts that are the same -/

/-- Whether expressions are the same names, or the same members of the same names. -/
def Expr.samePath : Expr → Expr → Bool
  | .var name, .var other => name == other
  | .member object name, .member owner other => object.samePath owner && name == other
  | _, _ => false

theorem Expr.eq_of_samePath (e : Expr) {f : Expr} (same : e.samePath f = true) : e = f := by
  induction e generalizing f with
  | var name =>
    cases f <;> simp_all [samePath]
  | member object name ih =>
    cases f with
    | member owner other =>
      obtain ⟨objects, names⟩ := Bool.and_eq_true_iff.mp same
      rw [ih objects, beq_iff_eq.mp names]
    | _ => simp [samePath] at same
  | _ => simp [samePath] at same

mutual

/-- Whether parts of templates are the same; they are not if they print or go through anything but
names and members. -/
def Node.same : Node → Node → Bool
  | .text s, .text t => s == t
  | .print e, .print f => e.samePath f
  | .choice test yes no, .choice other first second =>
    test.samePath other && allSame yes first && allSame no second
  | .loop name source body empty, .loop other row round nothing =>
    name == other && source.samePath row && allSame body round && allSame empty nothing
  | _, _ => false

def allSame : List Node → List Node → Bool
  | [], [] => true
  | node :: rest, other :: more => node.same other && allSame rest more
  | _, _ => false

end

mutual

theorem Node.eq_of_same : ∀ (node : Node) {other : Node}, node.same other = true → node = other
  | .text s, other, same => by
    cases other with
    | text t => rw [beq_iff_eq.mp (show (s == t) = true from same)]
    | _ => simp [Node.same] at same
  | .print e, other, same => by
    cases other with
    | print f => rw [e.eq_of_samePath same]
    | _ => simp [Node.same] at same
  | .choice test yes no, other, same => by
    cases other with
    | choice other first second =>
      simp only [Node.same, Bool.and_eq_true] at same
      obtain ⟨⟨tests, taken⟩, left⟩ := same
      rw [test.eq_of_samePath tests, eq_of_allSame yes taken, eq_of_allSame no left]
    | _ => simp [Node.same] at same
  | .loop name source body empty, other, same => by
    cases other with
    | loop other row round nothing =>
      simp only [Node.same, Bool.and_eq_true, beq_iff_eq] at same
      obtain ⟨⟨⟨rfl, rows⟩, rounds⟩, skipped⟩ := same
      rw [source.eq_of_samePath rows, eq_of_allSame body rounds, eq_of_allSame empty skipped]
    | _ => simp [Node.same] at same

theorem eq_of_allSame : ∀ (nodes : List Node) {others : List Node}, allSame nodes others = true →
    nodes = others
  | [], others, same => by
    cases others with
    | nil => rfl
    | cons other more => simp [allSame] at same
  | node :: rest, others, same => by
    cases others with
    | nil => simp [allSame] at same
    | cons other more =>
      rw [allSame, Bool.and_eq_true] at same
      rw [node.eq_of_same same.1, eq_of_allSame rest same.2]

end

/-! ### Strings that parts give -/

section

variable {scope : Scope} {node : Node} {rest : List Node} {s t : String}

theorem renderAll_cons (here : node.render scope = .ok (.string s))
    (later : renderAll scope rest = .ok (.string t)) :
    renderAll scope (node :: rest) = .ok (.string (s ++ t)) := by
  rw [renderAll, here, later]
  rfl

theorem renderAll_singleton (here : node.render scope = .ok (.string s)) :
    renderAll scope [node] = .ok (.string s) := by
  rw [renderAll_cons here rfl, String.append_empty]

theorem Node.render_text (s : String) : (Node.text s.toList).render scope = .ok (.string s) := by
  rw [render, String.ofList_toList]

theorem Node.render_print {e : Expr} (evaluated : e.eval scope = .ok (.text (.string s))) :
    (Node.print e).render scope = .ok (.string s) := by
  rw [render, evaluated]
  rfl

theorem Node.render_number {e : Expr} {n : Int} (evaluated : e.eval scope = .ok (.int n)) :
    (Node.print e).render scope = .ok (.string n.repr) := by
  rw [render, evaluated]
  rfl

/-- What is read of an item that has a name. -/
theorem Expr.eval_member {name field : String} {v w : Value} (found : scope.lookup name = some v)
    (held : attributeOf v field = .ok w) : (Expr.member (.var name) field).eval scope = .ok w := by
  simp only [eval, found]
  exact held

theorem rounds_strings {α : Type} {view : α → Value} {part : α → String}
    {body : Nat → Value → Except RenderError CodePoints} {all : List α}
    (each : ∀ x ∈ all, ∀ index, body index (view x) = .ok (.string (part x))) (index : Nat) :
    rounds body index (all.map view) = .ok (.string (String.join (all.map part))) := by
  induction all generalizing index with
  | nil => rfl
  | cons x rest ih =>
    obtain ⟨here, later⟩ := List.forall_mem_cons.mp each
    rw [List.map_cons, rounds, here, ok_bind, ih later, List.map_cons, String.join_cons]
    rfl

/-- A loop gives what its rounds do, one after the other, or what is there for no items. -/
theorem Node.render_loop {α : Type} {view : α → Value} {part : α → String} {all : List α} {name : String}
    {source : Expr} {body empty : List Node}
    (evaluated : source.eval scope = .ok (.tuple (all.map view)))
    (each : ∀ x ∈ all, ∀ round : Scope, round.lookup name = some (view x) →
      renderAll round body = .ok (.string (part x)))
    (none : renderAll scope empty = .ok (.string s)) :
    (Node.loop name source body empty).render scope =
      .ok (.string (if all = [] then s else String.join (all.map part))) := by
  have found : items (.tuple (all.map view)) = .ok (all.map view) := rfl
  rw [render, evaluated, ok_bind, found, ok_bind, List.isEmpty_map]
  cases all with
  | nil => exact none
  | cons x rest =>
    refine rounds_strings (fun x member index => ?_) 0
    exact each x member _ (by simp [loopScope])

theorem Node.render_loop_nil {α : Type} {view : α → Value} {part : α → String} {all : List α}
    {name : String} {source : Expr} {body : List Node}
    (evaluated : source.eval scope = .ok (.tuple (all.map view)))
    (each : ∀ x ∈ all, ∀ round : Scope, round.lookup name = some (view x) →
      renderAll round body = .ok (.string (part x))) :
    (Node.loop name source body []).render scope = .ok (.string (String.join (all.map part))) := by
  have given : renderAll scope [] = .ok (.string "") := rfl
  rw [render_loop evaluated each given]
  split
  case isTrue empty => rw [empty]; rfl
  case isFalse => rfl

end

end RpcBindings.Template
