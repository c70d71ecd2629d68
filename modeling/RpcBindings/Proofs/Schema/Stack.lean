import RpcBindings.Proofs.Schema.Unique

/-! How much room the objects of linked files need: a message is looked into once, so that a stack with
room for more messages than there are has room for all of them, however they refer to each other. -/
namespace RpcBindings.Schema

open Outcome

variable {descriptors : List FileDescriptor} {linked : List SchemaFile} {stack : Stack}

/-- The first files of a row that can be linked are linked in the same way without the others. -/
theorem linkAll_take {p : Pool} (links : linkAll p descriptors = .ok linked) (count : Nat) :
    linkAll p (descriptors.take count) = .ok (linked.take count) := by
  -- The pool grows from file to file, so it is arbitrary here.
  induction descriptors generalizing p linked count with
  | nil =>
    cases links
    simp [linkAll]
  | cons f rest ih =>
    cases count with
    | zero => rfl
    | succ count =>
      obtain ⟨file, next, later, here, done, rfl⟩ := linkAll_cons_ok links
      have complete : ¬f.missing ≠ [] := by
        intro lacking
        rw [linkAll, if_pos lacking] at links
        cases links
      rw [List.take_succ_cons, List.take_succ_cons, linkAll, if_neg complete, here]
      simp [ih done]

theorem linkAll_readable (links : linkAll {} descriptors = .ok linked) :
    linkAll {} (descriptors.takeWhile (·.path.fault?.isNone)) = .ok (readable descriptors linked) := by
  rw [List.prefix_iff_eq_take.mp (List.takeWhile_prefix _)]
  exact linkAll_take links _

theorem length_readable_le (descriptors : List FileDescriptor) (linked : List SchemaFile) :
    (declaredMessages (readable descriptors linked)).length ≤ (declaredMessages linked).length :=
  ((List.take_sublist _ linked).flatMap _).length_le

/-- A stack with room for more messages than all linked files declare, or without a bound. -/
def Stack.Roomy (stack : Stack) (descriptors : List FileDescriptor) : Prop :=
  ∀ depth ∈ stack, ∀ linked, linkAll {} descriptors = .ok linked →
    (declaredMessages linked).length < depth

theorem Stack.Roomy.fits (roomy : stack.Roomy descriptors)
    (links : linkAll {} descriptors = .ok linked) :
    stack.fits (readable descriptors linked) = true := by
  cases stack with
  | none => rfl
  | some depth =>
    obtain ⟨coherent, -⟩ := linkAll_coherent (linkAll_readable links)
    obtain ⟨nodes, v, made, -⟩ := View.viewFiles_reaches coherent
    have enough : (declaredMessages (readable descriptors linked)).length < depth :=
      Nat.lt_of_le_of_lt (length_readable_le descriptors linked) (roomy depth rfl linked links)
    simp [Stack.fits, made depth enough]

end RpcBindings.Schema
