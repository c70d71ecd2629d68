import RpcBindings.Proofs.Outcome
import RpcBindings.Template.Render

/-! What a template reads of the names that it is filled in with: whole values, or single members of
them. Names that agree on what is read give the same text. -/
namespace RpcBindings.Template

open Text (CodePoints)

/-- What is read of a name. -/
inductive Read where
  | whole (name : String)
  | member (name field : String)
  deriving DecidableEq

namespace Read

def name : Read → String
  | whole name | member name _ => name

def expr : Read → Expr
  | whole name => .var name
  | member name field => .member (.var name) field

end Read

def Expr.name? : Expr → Option String
  | var name => some name
  | _ => none

theorem Expr.eq_var_of_name? {e : Expr} {name : String} (named : e.name? = some name) :
    e = var name := by
  cases e <;> cases named
  rfl

/-- Whether all that an expression reads passes a test. -/
def Expr.reads (allowed : Read → Bool) : Expr → Bool
  | literal _ => true
  | var name => allowed (.whole name)
  | member object field =>
    object.reads allowed || object.name?.any fun name => allowed (.member name field)
  | call function argument => function.reads allowed && argument.reads allowed
  | not e => e.reads allowed
  | and left right | or left right | equal left right => left.reads allowed && right.reads allowed

/-- What may be read in the body of a loop: the names of the round as well. -/
def inRound (allowed : Read → Bool) (item : String) (r : Read) : Bool :=
  r.name == item || r.name == "loop" || allowed r

mutual

/-- Whether all that a part of a template reads passes a test. -/
def Node.reads (allowed : Read → Bool) : Node → Bool
  | .text _ => true
  | .print e => e.reads allowed
  | .choice test yes no => test.reads allowed && allRead allowed yes && allRead allowed no
  | .loop name source body empty =>
    source.reads allowed && allRead (inRound allowed name) body && allRead allowed empty

def allRead (allowed : Read → Bool) : List Node → Bool
  | [] => true
  | node :: rest => node.reads allowed && allRead allowed rest

end

/-- Whether two rows of names give the same for all that may be read. -/
def Agree (allowed : Read → Bool) (scope other : Scope) : Prop :=
  ∀ r, allowed r = true → r.expr.eval scope = r.expr.eval other

section

variable {allowed : Read → Bool} {scope other : Scope}

theorem Expr.eval_congr (agree : Agree allowed scope other) {e : Expr}
    (reads : e.reads allowed = true) : e.eval scope = e.eval other := by
  induction e with
  | literal v => rfl
  | var name => exact agree _ reads
  | member object field ih =>
    rw [Expr.reads, Bool.or_eq_true] at reads
    rcases reads with inner | direct
    · rw [eval, eval, ih inner]
    · cases named : object.name? with
      | none => simp [named] at direct
      | some name =>
        rw [named] at direct
        rw [eq_var_of_name? named]
        exact agree (.member name field) direct
  | call function argument callee actual =>
    obtain ⟨first, second⟩ := Bool.and_eq_true_iff.mp reads
    rw [eval, eval, callee first, actual second]
  | not e ih => rw [eval, eval, ih reads]
  | and left right first second =>
    obtain ⟨here, there⟩ := Bool.and_eq_true_iff.mp reads
    rw [eval, eval, first here, second there]
  | or left right first second =>
    obtain ⟨here, there⟩ := Bool.and_eq_true_iff.mp reads
    rw [eval, eval, first here, second there]
  | equal left right first second =>
    obtain ⟨here, there⟩ := Bool.and_eq_true_iff.mp reads
    rw [eval, eval, first here, second there]

/-- What is read of other names is the same in a round of a loop as outside of it. -/
theorem eval_loopScope {r : Read} {name : String} (differs : r.name ≠ name)
    (noLoop : r.name ≠ "loop") (scope : Scope) (all : List Value) (index : Nat) (item : Value) :
    r.expr.eval (loopScope scope name all index item) = r.expr.eval scope := by
  cases r with
  | whole key =>
    simp only [Read.name] at differs noLoop
    simp [Read.expr, Expr.eval, loopScope, List.lookup_cons, beq_false_of_ne differs,
      beq_false_of_ne noLoop]
  | member key field =>
    simp only [Read.name] at differs noLoop
    simp [Read.expr, Expr.eval, loopScope, List.lookup_cons, beq_false_of_ne differs,
      beq_false_of_ne noLoop]

/-- What is read of the names of a round is the same whatever names there are outside of it. -/
theorem eval_loopScope_own {r : Read} {name : String} (own : r.name = name ∨ r.name = "loop")
    (scope other : Scope) (all : List Value) (index : Nat) (item : Value) :
    r.expr.eval (loopScope scope name all index item) =
      r.expr.eval (loopScope other name all index item) := by
  have found (key : String) (own : key = name ∨ key = "loop") :
      (loopScope scope name all index item).lookup key =
        (loopScope other name all index item).lookup key ∧
      ∃ v, (loopScope other name all index item).lookup key = some v := by
    by_cases same : key = name
    · subst same
      simp [loopScope]
    · obtain rfl := own.resolve_left same
      simp [loopScope, List.lookup_cons, beq_false_of_ne same]
  cases r with
  | whole key =>
    obtain ⟨same, -⟩ := found key own
    simp only [Read.expr, Expr.eval, same]
  | member key field =>
    obtain ⟨same, -⟩ := found key own
    simp only [Read.expr, Expr.eval, same]

theorem Agree.inRound (agree : Agree allowed scope other) (name : String) (all : List Value)
    (index : Nat) (item : Value) :
    Agree (inRound allowed name) (loopScope scope name all index item)
      (loopScope other name all index item) := by
  intro r may
  by_cases own : r.name = name ∨ r.name = "loop"
  · exact eval_loopScope_own own scope other all index item
  · obtain ⟨differs, noLoop⟩ := not_or.mp own
    have outer : allowed r = true := by simpa [Template.inRound, differs, noLoop] using may
    rw [eval_loopScope differs noLoop, eval_loopScope differs noLoop, agree r outer]

mutual

theorem Node.render_congr :
    ∀ (node : Node) {allowed : Read → Bool} {scope other : Scope}, Agree allowed scope other →
      node.reads allowed = true → node.render scope = node.render other
  | .text s, _, _, _, _, _ => rfl
  | .print e, _, _, _, agree, reads => by
    simp only [Node.render, Expr.eval_congr agree reads]
  | .choice test yes no, _, _, _, agree, reads => by
    simp only [Node.reads, Bool.and_eq_true] at reads
    obtain ⟨⟨first, second⟩, third⟩ := reads
    simp only [Node.render, Expr.eval_congr agree first, renderAll_congr yes agree second,
      renderAll_congr no agree third]
  | .loop name source body empty, _, _, _, agree, reads => by
    simp only [Node.reads, Bool.and_eq_true] at reads
    obtain ⟨⟨first, second⟩, third⟩ := reads
    have round (all : List Value) (index : Nat) (item : Value) :=
      renderAll_congr body (agree.inRound name all index item) second
    simp only [Node.render, Expr.eval_congr agree first, renderAll_congr empty agree third, round]

/-- A template gives the same text with names that agree on what it reads. -/
theorem renderAll_congr :
    ∀ (nodes : List Node) {allowed : Read → Bool} {scope other : Scope}, Agree allowed scope other →
      allRead allowed nodes = true → renderAll scope nodes = renderAll other nodes
  | [], _, _, _, _, _ => rfl
  | node :: rest, _, _, _, agree, reads => by
    obtain ⟨here, later⟩ := Bool.and_eq_true_iff.mp reads
    simp only [renderAll, node.render_congr agree here, renderAll_congr rest agree later]

end

end

end RpcBindings.Template
