import RpcBindings.Proofs.Outcome
import RpcBindings.Schema.Load

/-! What loading comes to once the files are linked. What it gives does not depend on the stack, which
only decides whether it gives anything. -/
namespace RpcBindings.Schema

open Outcome
open Text (Raw)

variable {descriptors : List FileDescriptor} {linked files : List SchemaFile} {stack : Stack}

theorem fits_none (files : List SchemaFile) : Stack.fits none files = true := rfl

theorem loadFiles_of_links (links : linkAll {} descriptors = .ok linked) (wanted : List Raw)
    (stack : Stack) : loadFiles descriptors wanted stack =
      if stack.fits (readable descriptors linked) then
        match descriptors.findSome? (·.path.fault?) with
        | some fault => .error (.broken (.notText fault))
        | none => .ok (linked.map fun file => { file with generate := .text file.name ∈ wanted })
      else .error (.broken .stack) := by
  cases room : stack.fits (readable descriptors linked) <;>
    cases fault : descriptors.findSome? (·.path.fault?) <;>
    simp [loadFiles, links, room, fault]

/-- Files are loaded if they can be linked, if there is room for their objects, and if their names can
be read. -/
theorem loadFiles_ok_iff {wanted : List Raw} : loadFiles descriptors wanted stack = .ok files ↔
    ∃ linked, linkAll {} descriptors = .ok linked ∧ stack.fits (readable descriptors linked) = true ∧
      (∀ f ∈ descriptors, f.path.fault? = none) ∧
      files = linked.map fun file => { file with generate := .text file.name ∈ wanted } := by
  constructor
  · intro loaded
    obtain ⟨linked, links, -⟩ := bind_ok_iff.mp loaded
    rw [loadFiles_of_links links] at loaded
    split at loaded
    case isTrue room =>
      split at loaded
      case h_1 => cases loaded
      case h_2 none =>
        exact ⟨linked, links, room, List.findSome?_eq_none_iff.mp none, (Except.ok.inj loaded).symm⟩
    case isFalse => cases loaded
  · rintro ⟨linked, links, room, readable, rfl⟩
    rw [loadFiles_of_links links, if_pos room, List.findSome?_eq_none_iff.mpr readable]

end RpcBindings.Schema
