import RpcBindings.Path
import RpcBindings.Proofs.Text.Split

/-! What paths are made of. Taking a path apart and putting it together again, also as seen from
another place, brings no characters into it but dots and slashes. -/
namespace RpcBindings

namespace Text

theorem mem_of_mem_split {sep c : Char} {s part : List Char} (member : part ∈ split sep s)
    (inside : c ∈ part) : c ∈ s := by
  induction s generalizing part with
  | nil =>
    rw [split, List.mem_singleton] at member
    exact member ▸ inside
  | cons d s ih =>
    rw [split] at member
    split at member
    · rcases List.mem_cons.mp member with rfl | later
      · cases inside
      · exact List.mem_cons_of_mem _ (ih later inside)
    · cases parts : split sep s with
      | nil => exact absurd parts (split_ne_nil sep s)
      | cons first rest =>
        rw [parts] at member ih
        rcases List.mem_cons.mp member with rfl | later
        · rcases List.mem_cons.mp inside with rfl | behind
          · exact List.mem_cons_self
          · exact List.mem_cons_of_mem _ (ih List.mem_cons_self behind)
        · exact List.mem_cons_of_mem _ (ih (List.mem_cons_of_mem _ later) inside)

theorem mem_join {between : List Char} {parts : List (List Char)} {c : Char}
    (member : c ∈ join between parts) : c ∈ between ∨ ∃ part ∈ parts, c ∈ part := by
  induction parts with
  | nil => cases member
  | cons part rest ih =>
    cases rest with
    | nil => exact .inr ⟨part, List.mem_cons_self, member⟩
    | cons next rest =>
      rw [join_cons_cons, List.append_assoc, List.mem_append, List.mem_append] at member
      rcases member with here | here | later
      · exact .inr ⟨part, List.mem_cons_self, here⟩
      · exact .inl here
      · rcases ih later with here | ⟨other, listed, here⟩
        · exact .inl here
        · exact .inr ⟨other, List.mem_cons_of_mem _ listed, here⟩

end Text

namespace Path

open Text

theorem mem_of_mem_components {s : List Char} {part : String} {c : Char}
    (member : part ∈ components s) (inside : c ∈ part.toList) : c ∈ s := by
  obtain ⟨piece, kept, rfl⟩ := List.mem_map.mp member
  rw [String.toList_ofList] at inside
  exact mem_of_mem_split (List.mem_filter.mp kept).1 inside

theorem mem_of_mem_name {s : String} {c : Char} (inside : c ∈ (ofString s).name.toList) :
    c ∈ s.toList := by
  rw [name, List.getLastD_eq_getLast?] at inside
  cases last : (ofString s).parts.getLast? with
  | none =>
    rw [last] at inside
    cases inside
  | some part =>
    rw [last] at inside
    exact mem_of_mem_components (List.mem_of_getLast? last) inside

/-- The names on the way to a place are components of the path. -/
theorem mem_of_mem_place_names {p : Path} {name : String} (member : name ∈ p.place.names) :
    name ∈ p.parts := by
  have walk (parts : List String) (start : Place)
      (member : name ∈ (parts.foldl Place.step start).names) :
      name ∈ start.names ∨ name ∈ parts := by
    induction parts generalizing start with
    | nil => exact .inl member
    | cons part rest ih =>
      rcases ih (start.step part) member with before | later
      · rw [Place.step] at before
        split at before
        · split at before
          · split at before <;> exact .inl before
          · exact .inl (List.dropLast_subset _ before)
        · rcases List.mem_append.mp before with earlier | here
          · exact .inl earlier
          · exact .inr (List.mem_cons.mpr (.inl (List.mem_singleton.mp here)))
      · exact .inr (List.mem_cons_of_mem _ later)
  rcases walk p.parts ⟨p.root != "", 0, []⟩ member with none | listed
  · cases none
  · exact listed

theorem mem_route {start target : Place} {part : String} (member : part ∈ start.route target) :
    part = ".." ∨ part ∈ target.names := by
  have split {n : Nat} {names : List String} (known : names ⊆ target.names)
      (member : part ∈ List.replicate n ".." ++ names) : part = ".." ∨ part ∈ target.names := by
    rcases List.mem_append.mp member with up | down
    · exact .inl (List.eq_of_mem_replicate up)
    · exact .inr (known down)
  unfold Place.route at member
  split at member
  · exact split (List.drop_subset _ _) member
  · exact split (List.Subset.refl _) member

/-- The characters of a path as seen from another place are those of the path, dots and slashes. -/
theorem mem_relative {target start : String} {c : Char}
    (member : c ∈ (relative target start).toList) : c = '.' ∨ c = '/' ∨ c ∈ target.toList := by
  have parts : ∀ part ∈ (ofString start).place.route (ofString target).place, c ∈ part.toList →
      c = '.' ∨ c ∈ target.toList := by
    intro part listed inside
    rcases mem_route listed with rfl | down
    · exact .inl (by simpa using inside)
    · exact .inr (mem_of_mem_components (mem_of_mem_place_names down) inside)
  rw [relative] at member
  split at member
  · exact .inl (by simpa using member)
  · rw [String.toList_intercalate, ← join_eq_intercalate] at member
    rcases mem_join member with slash | ⟨_, listed, inside⟩
    · exact .inr (.inl (by simpa using slash))
    · obtain ⟨part, found, rfl⟩ := List.mem_map.mp listed
      rcases parts part found inside with dot | own
      · exact .inl dot
      · exact .inr (.inr own)

end Path

end RpcBindings
