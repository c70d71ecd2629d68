import RpcBindings.Proofs.Schema.Order

/-! The files that output is wanted for. If none are named, these are the files that no other depends
on; together with what they depend on, directly or through others, they are the whole set. -/
namespace RpcBindings.Schema

open Outcome
open Text (Raw)

/-- A file that is loaded goes by the name of its descriptor, and is marked if that is wanted. -/
structure FileDescriptor.Marked (wanted : List Raw) (f : FileDescriptor) (file : SchemaFile) :
    Prop where
  path : f.path = .text file.name
  generate_iff : file.generate = true ↔ f.path ∈ wanted

/-- Loading gives one file for each descriptor, in their order. -/
theorem loadFiles_marked {descriptors : List FileDescriptor} {wanted : List Raw} {stack : Stack}
    {files : List SchemaFile} (loaded : loadFiles descriptors wanted stack = .ok files) :
    List.Forall₂ (FileDescriptor.Marked wanted) descriptors files := by
  obtain ⟨linked, done, -, readable, rfl⟩ := loadFiles_ok_iff.mp loaded
  obtain ⟨last, orderly, -, stands, -⟩ := Pool.orderly_empty.linkAll done
  rw [List.forall₂_map_right_iff]
  refine ((List.forall₂_and_left descriptors linked).mpr ⟨readable, stands⟩).imp ?_
  rintro f file ⟨fine, known, listed, same, -⟩
  obtain ⟨named, shown⟩ := orderly.named _ listed
  have path : f.path = .text file.name := by
    rw [same] at named shown
    rw [shown]
    exact named.eq_text fine
  exact ⟨path, by simp [path]⟩

end RpcBindings.Schema
