import RpcBindings.Proofs.Schema.Declared
import RpcBindings.Proofs.Stub.FirstOccurrences

/-! The way through a schema file on which its references are met: the services before the messages,
each part of a part in its order. A place is a path of numbers, and what comes earlier on the way has
the smaller path. So the external types of a stub are known by place: which types they are, that each
is there once, and in which order they stand. -/
namespace RpcBindings

open Schema

/-- At which places a file refers to which types: in the methods of its services, an input before an
output, and after that in the fields of its messages that lie in no other, if those count. -/
inductive Schema.SchemaFile.RefersAt (f : SchemaFile) (fields : Bool) : List Nat → Declaration → Prop
  | input {i j s m} : f.services[i]? = some s → s.methods[j]? = some m →
      f.RefersAt fields [0, i, j, 0] (.message m.input)
  | output {i j s m} : f.services[i]? = some s → s.methods[j]? = some m →
      f.RefersAt fields [0, i, j, 1] (.message m.output)
  | enum {i j m field e} : fields = true → f.messages[i]? = some m → m.fields[j]? = some field →
      field.enum = some e → f.RefersAt fields [1, i, j, 0] (.enum e)
  | message {i j m field n} : fields = true → f.messages[i]? = some m → m.fields[j]? = some field →
      field.message = some n → f.RefersAt fields [1, i, j, 1] (.message n)

namespace Stub

/-- Whether a place comes before another: by the first number in which they differ. -/
abbrev Earlier (place later : List Nat) : Prop := List.Lex (· < ·) place later

section

variable {α β : Type}

/-- Whether the elements of a row stand at rising places. -/
abbrev Rising (row : List (List Nat × α)) : Prop := row.Pairwise fun a b => Earlier a.1 b.1

/-- What the parts of a row hold, one after the other. The number of a part leads the places in it. -/
def numbered (inside : α → List (List Nat × β)) (row : List α) : List (List Nat × β) :=
  row.zipIdx.flatMap fun part => (inside part.1).map fun held => (part.2 :: held.1, held.2)

theorem mem_numbered {inside : α → List (List Nat × β)} {row : List α} {place : List Nat} {y : β} :
    (place, y) ∈ numbered inside row ↔
      ∃ i x rest, row[i]? = some x ∧ (rest, y) ∈ inside x ∧ place = i :: rest := by
  simp only [numbered, List.mem_flatMap, List.mem_map, Prod.exists, Prod.mk.injEq,
    List.mk_mem_zipIdx_iff_getElem?]
  constructor
  · rintro ⟨x, i, listed, rest, _, found, rfl, rfl⟩
    exact ⟨i, x, rest, listed, found, rfl⟩
  · rintro ⟨i, x, rest, listed, found, rfl⟩
    exact ⟨x, i, listed, rest, y, found, rfl, rfl⟩

theorem mem_numbered_pair {inside : α → List (List Nat × β)} {a b : α} {place : List Nat} {y : β} :
    (place, y) ∈ numbered inside [a, b] ↔
      ∃ rest, place = 0 :: rest ∧ (rest, y) ∈ inside a ∨ place = 1 :: rest ∧ (rest, y) ∈ inside b := by
  rw [mem_numbered]
  constructor
  · rintro ⟨i, x, rest, listed, found, rfl⟩
    match i, listed with
    | 0, listed => exact ⟨rest, .inl ⟨rfl, Option.some.inj listed ▸ found⟩⟩
    | 1, listed => exact ⟨rest, .inr ⟨rfl, Option.some.inj listed ▸ found⟩⟩
  · rintro ⟨rest, ⟨rfl, found⟩ | ⟨rfl, found⟩⟩
    · exact ⟨0, a, rest, rfl, found, rfl⟩
    · exact ⟨1, b, rest, rfl, found, rfl⟩

theorem numbered_map_snd (inside : α → List (List Nat × β)) (row : List α) :
    (numbered inside row).map (·.2) = row.flatMap fun x => (inside x).map (·.2) := by
  have unplaced (part : α × Nat) :
      ((inside part.1).map fun held => (part.2 :: held.1, held.2)).map (·.2) =
        (inside part.1).map (·.2) := List.map_map
  conv_rhs => rw [← List.zipIdx_map_fst 0 row, List.flatMap_map]
  simp only [numbered, List.map_flatMap, unplaced]

theorem zipIdx_pairwise (row : List α) (k : Nat) :
    (row.zipIdx k).Pairwise fun a b => a.2 < b.2 := by
  induction row generalizing k with
  | nil => exact .nil
  | cons x rest ih => exact .cons (fun _ later => List.le_snd_of_mem_zipIdx later) (ih (k + 1))

theorem rising_numbered {inside : α → List (List Nat × β)} {row : List α}
    (rising : ∀ x ∈ row, Rising (inside x)) : Rising (numbered inside row) := by
  -- Places in one part differ behind its number, those in two parts by the number.
  refine List.pairwise_flatMap.mpr ⟨fun part member => ?_, ?_⟩
  · have within := rising part.1 (List.fst_eq_of_mem_zipIdx member ▸ List.getElem_mem _)
    exact List.pairwise_map.mpr (within.imp fun before => .cons before)
  · refine (zipIdx_pairwise row 0).imp fun before x first y second => ?_
    obtain ⟨-, -, rfl⟩ := List.mem_map.mp first
    obtain ⟨-, -, rfl⟩ := List.mem_map.mp second
    exact .rel before

end

/-! ### References with their places -/

/-- A reference to a type. -/
def Reference.ofDeclaration : Declaration → Reference
  | .message m => Reference.ofMessage m
  | .enum e => Reference.ofEnum e

theorem Reference.ofDeclaration_file (d : Declaration) : (ofDeclaration d).file = d.file := by
  cases d <;> rfl

/-- What may be referred to, at a place of its own. -/
def alone (d : Option Declaration) : List (List Nat × Declaration) := d.toList.map ([], ·)

theorem mem_alone {o : Option Declaration} {place : List Nat} {d : Declaration} :
    (place, d) ∈ alone o ↔ o = some d ∧ place = [] := by
  cases o <;> simp [alone, eq_comm, and_comm]

/-- Of two that may be referred to side by side, each has its place. -/
theorem mem_alone_pair {a b : Option Declaration} {place : List Nat} {d : Declaration} :
    (place, d) ∈ numbered alone [a, b] ↔ place = [0] ∧ a = some d ∨ place = [1] ∧ b = some d := by
  rw [mem_numbered_pair]
  simp only [mem_alone]
  constructor
  · rintro ⟨_, ⟨rfl, held, rfl⟩ | ⟨rfl, held, rfl⟩⟩
    · exact .inl ⟨rfl, held⟩
    · exact .inr ⟨rfl, held⟩
  · rintro (⟨rfl, held⟩ | ⟨rfl, held⟩)
    · exact ⟨[], .inl ⟨rfl, held, rfl⟩⟩
    · exact ⟨[], .inr ⟨rfl, held, rfl⟩⟩

theorem alone_map_snd (o : Option Declaration) : (alone o).map (·.2) = o.toList := by
  cases o <;> rfl

theorem rising_alone (d : Option Declaration) : Rising (alone d) := by
  cases d
  · exact .nil
  · exact List.pairwise_singleton _ _

def methodTypes (m : MethodDecl) : List (List Nat × Declaration) :=
  numbered alone [some (.message m.input), some (.message m.output)]

def fieldTypes (field : FieldDecl) : List (List Nat × Declaration) :=
  numbered alone [field.enum.map .enum, field.message.map .message]

/-- All that a file refers to, each with its place. -/
def placedReferences (f : SchemaFile) (fields : Bool) : List (List Nat × Declaration) :=
  numbered id [
    numbered (fun s => numbered methodTypes s.methods) f.services,
    if fields then numbered (fun m => numbered fieldTypes m.fields) f.messages else []]

theorem rising_placedReferences (f : SchemaFile) (fields : Bool) :
    Rising (placedReferences f fields) := by
  have methods (m : MethodDecl) : Rising (methodTypes m) := rising_numbered fun d _ => rising_alone d
  have inFields (field : FieldDecl) : Rising (fieldTypes field) :=
    rising_numbered fun d _ => rising_alone d
  apply rising_numbered
  simp only [List.forall_mem_cons, List.not_mem_nil, false_implies, implies_true, and_true, id]
  constructor
  · exact rising_numbered fun s _ => rising_numbered fun m _ => methods m
  · cases fields
    · exact .nil
    · exact rising_numbered fun m _ => rising_numbered fun field _ => inFields field

/-- The references of a file are what its placed references are without their places. -/
theorem references_eq (f : SchemaFile) (fields : Bool) :
    references f fields =
      ((placedReferences f fields).map (·.2)).map Reference.ofDeclaration := by
  have inField (field : FieldDecl) :
      ((field.enum.map Declaration.enum).toList ++ (field.message.map Declaration.message).toList).map
        Reference.ofDeclaration =
      (field.enum.map Reference.ofEnum).toList ++ (field.message.map Reference.ofMessage).toList := by
    cases field.enum <;> cases field.message <;> rfl
  have methods : ((numbered (fun s => numbered methodTypes s.methods) f.services).map (·.2)).map
      Reference.ofDeclaration = methodReferences f := by
    simp only [methodReferences, methodTypes, numbered_map_snd, alone_map_snd, List.map_flatMap]
    rfl
  have inMessages : ((numbered (fun m => numbered fieldTypes m.fields) f.messages).map (·.2)).map
      Reference.ofDeclaration = fieldReferences f := by
    simp only [fieldReferences, fieldTypes, numbered_map_snd, alone_map_snd, List.map_flatMap,
      List.flatMap_cons, List.flatMap_nil, List.append_nil, inField]
  rw [references, placedReferences, numbered_map_snd, List.map_flatMap, List.flatMap_cons,
    List.flatMap_cons, List.flatMap_nil, List.append_nil, id, id, methods]
  cases fields with
  | true => rw [if_pos rfl, if_pos rfl, inMessages]
  | false => rfl

section

variable {f : SchemaFile} {fields : Bool} {place : List Nat} {d : Declaration}

theorem refersAt_of_mem (member : (place, d) ∈ placedReferences f fields) :
    f.RefersAt fields place d := by
  obtain ⟨_, ⟨rfl, services⟩ | ⟨rfl, messages⟩⟩ := mem_numbered_pair.mp member
  · obtain ⟨i, s, _, service, methods, rfl⟩ := mem_numbered.mp services
    obtain ⟨j, m, _, method, part, rfl⟩ := mem_numbered.mp methods
    rcases mem_alone_pair.mp part with ⟨rfl, same⟩ | ⟨rfl, same⟩
    · cases same
      exact .input service method
    · cases same
      exact .output service method
  · cases fields with
    | false => cases messages
    | true =>
      rw [if_pos rfl] at messages
      obtain ⟨i, m, _, message, inside, rfl⟩ := mem_numbered.mp messages
      obtain ⟨j, field, _, listed, part, rfl⟩ := mem_numbered.mp inside
      rcases mem_alone_pair.mp part with ⟨rfl, same⟩ | ⟨rfl, same⟩
      · obtain ⟨e, held, rfl⟩ := Option.map_eq_some_iff.mp same
        exact .enum rfl message listed held
      · obtain ⟨n, held, rfl⟩ := Option.map_eq_some_iff.mp same
        exact .message rfl message listed held

theorem mem_of_refersAt (refers : f.RefersAt fields place d) :
    (place, d) ∈ placedReferences f fields := by
  have inMethod {i j s m rest} (service : f.services[i]? = some s) (method : s.methods[j]? = some m)
      (part : (rest, d) ∈ methodTypes m) : (0 :: i :: j :: rest, d) ∈ placedReferences f fields := by
    have methods := mem_numbered.mpr ⟨j, m, rest, method, part, rfl⟩
    exact mem_numbered_pair.mpr ⟨_, .inl ⟨rfl, mem_numbered.mpr ⟨i, s, _, service, methods, rfl⟩⟩⟩
  have inField {i j m field rest} (counts : fields = true) (message : f.messages[i]? = some m)
      (listed : m.fields[j]? = some field) (part : (rest, d) ∈ fieldTypes field) :
      (1 :: i :: j :: rest, d) ∈ placedReferences f fields := by
    have inside := mem_numbered.mpr ⟨j, field, rest, listed, part, rfl⟩
    refine mem_numbered_pair.mpr ⟨_, .inr ⟨rfl, ?_⟩⟩
    rw [id, if_pos counts]
    exact mem_numbered.mpr ⟨i, m, _, message, inside, rfl⟩
  cases refers with
  | input service method => exact inMethod service method (mem_alone_pair.mpr (.inl ⟨rfl, rfl⟩))
  | output service method => exact inMethod service method (mem_alone_pair.mpr (.inr ⟨rfl, rfl⟩))
  | enum counts message listed held =>
    exact inField counts message listed (mem_alone_pair.mpr (.inl ⟨rfl, congrArg (Option.map _) held⟩))
  | message counts message listed held =>
    exact inField counts message listed (mem_alone_pair.mpr (.inr ⟨rfl, congrArg (Option.map _) held⟩))

theorem mem_placedReferences : (place, d) ∈ placedReferences f fields ↔ f.RefersAt fields place d :=
  ⟨refersAt_of_mem, mem_of_refersAt⟩

end

/-- If fields count, a file refers somewhere to just the types that it names. -/
theorem exists_refersAt_iff {f : SchemaFile} {d : Declaration} :
    (∃ place, f.RefersAt true place d) ↔ f.Names d := by
  constructor
  · rintro ⟨place, refers⟩
    cases refers with
    | input service method =>
      exact .input (List.mem_of_getElem? service) (List.mem_of_getElem? method)
    | output service method =>
      exact .output (List.mem_of_getElem? service) (List.mem_of_getElem? method)
    | enum _ message listed held =>
      exact .field (List.mem_of_getElem? message) (List.mem_of_getElem? listed) (.enum held)
    | message _ message listed held =>
      exact .field (List.mem_of_getElem? message) (List.mem_of_getElem? listed) (.message held)
  · intro names
    cases names with
    | input service method =>
      obtain ⟨i, service⟩ := List.getElem?_of_mem service
      obtain ⟨j, method⟩ := List.getElem?_of_mem method
      exact ⟨_, .input service method⟩
    | output service method =>
      obtain ⟨i, service⟩ := List.getElem?_of_mem service
      obtain ⟨j, method⟩ := List.getElem?_of_mem method
      exact ⟨_, .output service method⟩
    | field message listed held =>
      obtain ⟨i, message⟩ := List.getElem?_of_mem message
      obtain ⟨j, listed⟩ := List.getElem?_of_mem listed
      cases held with
      | enum held => exact ⟨_, .enum rfl message listed held⟩
      | message held => exact ⟨_, .message rfl message listed held⟩

/-! ### External types -/

/-- Whether a file refers at a place to a type of another file, and by which name, package and file
the stub knows that. -/
def ForeignAt (f : SchemaFile) (options : BuildOptions) (place : List Nat) (t : TypeRef) : Prop :=
  ∃ d : Declaration, f.RefersAt options.emitsTypes place d ∧ d.file ≠ f.name ∧
    t = ⟨d.name, resolvePackage d.package options.fallbackPackage, stripExtension d.file⟩

theorem typeRef_ofDeclaration (options : BuildOptions) (d : Declaration) :
    typeRef options (.ofDeclaration d) =
      ⟨d.name, resolvePackage d.package options.fallbackPackage, stripExtension d.file⟩ := by
  cases d <;> rfl

/-- If fields count, the types are those of other files that the file names. -/
theorem exists_foreignAt_iff {f : SchemaFile} {options : BuildOptions}
    (emits : options.emitsTypes = true) {t : TypeRef} : (∃ place, ForeignAt f options place t) ↔
      ∃ d, f.Names d ∧ d.file ≠ f.name ∧
        t = ⟨d.name, resolvePackage d.package options.fallbackPackage, stripExtension d.file⟩ := by
  simp only [ForeignAt, emits, ← exists_refersAt_iff]
  constructor
  · rintro ⟨place, d, refers, foreign, rfl⟩
    exact ⟨d, ⟨place, refers⟩, foreign, rfl⟩
  · rintro ⟨d, ⟨place, refers⟩, foreign, rfl⟩
    exact ⟨place, d, refers, foreign, rfl⟩

/-- All that a file refers to in other files, each with its place. -/
def placedForeign (f : SchemaFile) (options : BuildOptions) : List (List Nat × TypeRef) :=
  ((placedReferences f options.emitsTypes).filter (·.2.file ≠ f.name)).map fun held =>
    (held.1, typeRef options (.ofDeclaration held.2))

theorem foreignTypes_eq (f : SchemaFile) (options : BuildOptions) :
    foreignTypes f options = (placedForeign f options).map (·.2) := by
  simp only [foreignTypes, references_eq, placedForeign, List.filter_map, List.map_map,
    Function.comp_def, Reference.ofDeclaration_file]

theorem mem_placedForeign {f : SchemaFile} {options : BuildOptions} {place : List Nat} {t : TypeRef} :
    (place, t) ∈ placedForeign f options ↔ ForeignAt f options place t := by
  simp only [placedForeign, List.mem_map, List.mem_filter, Prod.exists, mem_placedReferences,
    typeRef_ofDeclaration, decide_eq_true_eq, Prod.mk.injEq, ForeignAt]
  constructor
  · rintro ⟨_, d, ⟨refers, foreign⟩, rfl, rfl⟩
    exact ⟨d, refers, foreign, rfl⟩
  · rintro ⟨d, refers, foreign, rfl⟩
    exact ⟨_, d, ⟨refers, foreign⟩, rfl, rfl⟩

theorem rising_placedForeign (f : SchemaFile) (options : BuildOptions) :
    Rising (placedForeign f options) := by
  apply List.pairwise_map.mpr
  exact (rising_placedReferences f options.emitsTypes).filter _

theorem externalTypes_of_hashable (f : SchemaFile) {options : BuildOptions}
    (hashable : isHashable options.fallbackPackage = true) :
    externalTypes f options = .ok (firstOccurrences [] (foreignTypes f options)) := by
  simp [externalTypes, hashable]

section

variable {f : SchemaFile} {options : BuildOptions} {types : List TypeRef}
  (found : externalTypes f options = .ok types)
include found

theorem externalTypes_eq : types = firstOccurrences [] (foreignTypes f options) := by
  simp only [externalTypes] at found
  split at found
  · cases found
  · exact (Except.ok.inj found).symm

theorem nodup_externalTypes : types.Nodup := externalTypes_eq found ▸ nodup_firstOccurrences _ _

theorem mem_externalTypes {t : TypeRef} : t ∈ types ↔ ∃ place, ForeignAt f options place t := by
  have listed : t ∈ foreignTypes f options ↔ ∃ place, ForeignAt f options place t := by
    simp [foreignTypes_eq, mem_placedForeign]
  rw [externalTypes_eq found, mem_firstOccurrences_nil, listed]

theorem pairwise_externalTypes : types.Pairwise fun t u => ∃ place, ForeignAt f options place t ∧
    ∀ later, ForeignAt f options later u → Earlier place later := by
  rw [externalTypes_eq found, foreignTypes_eq]
  refine (pairwise_firstOccurrences (rising_placedForeign f options) []).imp fun earlier => ?_
  obtain ⟨place, here, all⟩ := earlier
  exact ⟨place, mem_placedForeign.mp here, fun later found => all later (mem_placedForeign.mpr found)⟩

end

/-- The external types of a file are just the types of other files that it refers to. Each is there
once, known by its name, its package or what stands in for that, and its file without the extension.
They stand in the order of the first places where the file refers to them. What stands in for a package
is looked up among others, which any text can be, or nothing at all. -/
theorem externalTypes_exact (f : SchemaFile) (options : BuildOptions)
    (hashable : isHashable options.fallbackPackage = true) :
    ∃ types, externalTypes f options = .ok types ∧ types.Nodup ∧
      (∀ t, t ∈ types ↔ ∃ place, ForeignAt f options place t) ∧
      types.Pairwise fun t u => ∃ place, ForeignAt f options place t ∧
        ∀ later, ForeignAt f options later u → Earlier place later := by
  have found := externalTypes_of_hashable f hashable
  exact ⟨_, found, nodup_externalTypes found, fun t => mem_externalTypes found,
    pairwise_externalTypes found⟩

/-- A file that refers to a type of its own, to an enum of a file without a package, and on both its
ways to a message of another file. -/
def crossing : SchemaFile where
  name := "a.proto"
  package := "a"
  generate := true
  enums := []
  messages := [{
    name := "Order", fullName := "a.Order", file := "a.proto", package := "a", isMapEntry := false
    messages := [], enums := []
    fields := [
      ⟨"state", 1, some .enum, .optional, some ⟨"State", "State", "c.proto", "", []⟩, none⟩,
      ⟨"item", 2, some .message, .repeated, none, some ⟨"Item", "b.Item", "b.proto", "b"⟩⟩] }]
  services := [⟨"Orders", "a.Orders", [
    ⟨"Find", ⟨"Order", "a.Order", "a.proto", "a"⟩, ⟨"Item", "b.Item", "b.proto", "b"⟩, false⟩]⟩]

def crossingOptions : BuildOptions where
  types := Target.kotlin.types
  fallbackPackage := .string "app"
  emitsTypes := true
  flatNamespace := false

theorem externalTypes_exact_crossing : isHashable crossingOptions.fallbackPackage = true ∧
    ∃ item state : TypeRef, item = ⟨"Item", .text (.string "b"), "b"⟩ ∧
      state = ⟨"State", .text (.string "app"), "c"⟩ ∧
      externalTypes crossing crossingOptions = .ok [item, state] ∧
      (∀ t, t ∈ [item, state] ↔ ∃ place, ForeignAt crossing crossingOptions place t) ∧
      ∃ place, ForeignAt crossing crossingOptions place item ∧
        ∀ later, ForeignAt crossing crossingOptions later state → Earlier place later := by
  have evaluated : externalTypes crossing crossingOptions =
      .ok [⟨"Item", .text (.string "b"), "b"⟩, ⟨"State", .text (.string "app"), "c"⟩] := by
    decide +kernel
  obtain ⟨types, found, -, members, ordered⟩ := externalTypes_exact crossing crossingOptions rfl
  obtain rfl : _ = types := Except.ok.inj (evaluated.symm.trans found)
  exact ⟨rfl, _, _, rfl, rfl, evaluated, members, List.rel_of_pairwise_cons ordered List.mem_cons_self⟩

end Stub

end RpcBindings
