import RpcBindings.Proofs.Code.Sections
import RpcBindings.Proofs.Stub.Traversal
import RpcBindings.Proofs.Target.Generate
import RpcBindings.Proofs.Text.Split

/-! What a generated Kotlin file imports for the types of other files. It imports a type if and only if
the schema file refers to it and it lies in a package that has a name and is not the file's own; the
imports are sorted, each is there once, and each has a line of its own behind the package. -/
namespace RpcBindings

open Outcome Schema Template
open Text (CodePoints)

namespace Text.CodePoints

theorem dotted_codes (p : CodePoints) (name : String) :
    (p ++ .string ("." ++ name)).codes = p.codes ++ '.'.toNat :: (string name).codes := by
  rw [codes_append, ← string_append_string, codes_append]
  rfl

theorem not_mem_codes {name : String} (free : '.' ∉ name.toList) :
    '.'.toNat ∉ (string name).codes := by
  intro member
  obtain ⟨c, listed, same⟩ := List.mem_map.mp member
  exact free (Char.toNat_inj.mp same ▸ listed)

/-- A package and a name without dots can be told from the text that they make. -/
theorem dotted_inj {p q : CodePoints} {name other : String} (free : '.' ∉ name.toList)
    (freeToo : '.' ∉ other.toList) :
    p ++ .string ("." ++ name) = q ++ .string ("." ++ other) ↔ p.codes = q.codes ∧ name = other := by
  constructor
  · intro same
    have codes := congrArg codes same
    rw [dotted_codes, dotted_codes] at codes
    by_cases front : p.codes = q.codes
    · rw [front] at codes
      have back := congrArg ofCodes (List.cons.inj (List.append_cancel_left codes)).2
      rw [ofCodes_codes_string, ofCodes_codes_string] at back
      exact ⟨front, string.inj back⟩
    · rcases append_sep_cases codes front with ⟨more, -, back⟩ | ⟨more, -, back⟩
      · exact absurd (back ▸ List.mem_append_right _ List.mem_cons_self) (not_mem_codes free)
      · exact absurd (back ▸ List.mem_append_right _ List.mem_cons_self) (not_mem_codes freeToo)
  · rintro ⟨codes, rfl⟩
    rw [append_eq_ofCodes, append_eq_ofCodes, codes]

end Text.CodePoints

namespace Template

variable {scope : Scope} {a b : List Nat}

theorem Node.gives_text (scope : Scope) (s : String) :
    (Node.text s.toList).Gives scope (CodePoints.string s).codes :=
  ⟨_, rfl, by rw [String.ofList_toList]⟩

theorem Node.gives_print {e : Expr} {s : CodePoints} (evaluated : e.eval scope = .ok (.text s)) :
    (Node.print e).Gives scope s.codes := by
  refine ⟨s, ?_, rfl⟩
  rw [Node.render, evaluated]
  rfl

theorem Node.Gives.cons {node : Node} {rest : List Node} (here : node.Gives scope a)
    (later : Template.Gives scope rest b) : Template.Gives scope (node :: rest) (a ++ b) :=
  gives_cons.mpr ⟨a, b, rfl, here, later⟩

end Template

namespace Generator

variable {g : Generator} {file : Stub.File}

/-! ### The row of imports -/

/-- The imports rise, since each text is there once and the texts are sorted. -/
theorem pairwise_typeImports (file : Stub.File) :
    (typeImports file).Pairwise CodePoints.Precedes := by
  have once : (typeImports file).Nodup :=
    (List.mergeSort_perm _ _).nodup_iff.mpr (Stub.nodup_firstOccurrences _ _)
  have sorted : (typeImports file).Pairwise fun s t => ¬ t.Precedes s := Text.pairwise_sortedCodes _
  refine (once.and sorted).imp_of_mem fun {s t} first second both => ?_
  obtain ⟨differ, before⟩ := both
  refine (CodePoints.precedes_or_eq before).resolve_right fun same => differ ?_
  obtain ⟨_, -, -, rfl⟩ := mem_typeImports.mp first
  obtain ⟨_, -, -, rfl⟩ := mem_typeImports.mp second
  rw [CodePoints.codes_append, CodePoints.codes_append] at same
  rw [CodePoints.append_eq_ofCodes, same, ← CodePoints.append_eq_ofCodes]

/-! ### Which types are imported -/

/-- Whether a schema file refers to a type of another one that lies in a package which has a name and
is not the package of the file itself. An empty package goes by what stands in for it. -/
structure Needs (g : Generator) (f : SchemaFile) (d : Declaration) (package : CodePoints) : Prop where
  names : f.Names d
  foreign : d.file ≠ f.name
  resolved : Stub.resolvePackage d.package g.fallbackPackage = .text package
  named : package ≠ .string ""
  other : Stub.resolvePackage f.package g.fallbackPackage ≠ .text package

theorem isImported_iff {own package : CodePoints} {t : Stub.TypeRef} (home : file.package = .text own)
    (away : t.package = .text package) :
    isImported file t = true ↔ package ≠ .string "" ∧ package ≠ own := by
  simp [isImported, home, away, Stub.Package.value, Value.truthy, Value.same]

section

variable {f : SchemaFile} {stub : Stub.File} {good : CodePoints → Prop}

/-- The imports are the full names of the types that are needed. -/
theorem mem_typeImports_iff (emits : g.target.emitsTypes = true)
    (set : g.fallbackPackage.UnsetOr good) (built : g.build f = .ok stub) {s : CodePoints} :
    s ∈ typeImports stub ↔ ∃ d p, g.Needs f d p ∧ s = p ++ .string ("." ++ d.name) := by
  obtain ⟨_, types, -, found, rfl⟩ := Stub.ofSchema_ok built
  obtain ⟨own, home⟩ := resolvePackage_text set f.package
  have emitting : g.buildOptions.emitsTypes = true := emits
  have fallback : g.buildOptions.fallbackPackage = g.fallbackPackage := rfl
  simp only [mem_typeImports, Stub.mem_externalTypes found, Stub.exists_foreignAt_iff emitting, fallback]
  constructor
  · rintro ⟨_, ⟨d, names, foreign, rfl⟩, imported, rfl⟩
    obtain ⟨p, away⟩ := resolvePackage_text set d.package
    obtain ⟨named, other⟩ := (isImported_iff home away).mp imported
    refine ⟨d, p, ⟨names, foreign, away, named, fun same => other ?_⟩, ?_⟩
    · exact Stub.Package.text.inj (same.symm.trans home)
    · rw [away]
      rfl
  · rintro ⟨d, p, needs, rfl⟩
    refine ⟨_, ⟨d, needs.names, needs.foreign, rfl⟩, ?_, ?_⟩
    · refine (isImported_iff home needs.resolved).mpr ⟨needs.named, fun same => needs.other ?_⟩
      rw [same, home]
    · rw [needs.resolved]
      rfl

/-- Where no name has a dot, an import says in which package a type of which name is needed. -/
theorem dotted_mem_typeImports_iff (emits : g.target.emitsTypes = true)
    (set : g.fallbackPackage.UnsetOr good) (built : g.build f = .ok stub)
    (plain : ∀ d, f.Names d → '.' ∉ d.name.toList) (p : CodePoints) {name : String}
    (free : '.' ∉ name.toList) : p ++ .string ("." ++ name) ∈ typeImports stub ↔
      ∃ d q, g.Needs f d q ∧ d.name = name ∧ q.codes = p.codes := by
  rw [mem_typeImports_iff emits set built]
  constructor
  · rintro ⟨d, q, needs, same⟩
    obtain ⟨codes, rfl⟩ := (Text.CodePoints.dotted_inj free (plain d needs.names)).mp same
    exact ⟨d, q, needs, rfl, codes.symm⟩
  · rintro ⟨d, q, needs, rfl, codes⟩
    exact ⟨d, q, needs, (Text.CodePoints.dotted_inj free free).mpr ⟨codes.symm, rfl⟩⟩

end

/-! ### The lines of imports -/

/-- The part of a template that says where the code comes from. -/
def originNodes : List Template.Node := [
  .text "// Code generated by ".toList, .print (.var "generator"),
  .text ". DO NOT EDIT.\n// source: ".toList, .print (.member (.var "file") "file_name"),
  .text "\n\n".toList]

/-- The part of a template for one import. -/
def importNodes : List Template.Node :=
  [.text "import ".toList, .print (.var "target"), .text "\n".toList]

/-- What a template of files with packages and imports begins with. -/
def headNodes : List Template.Node := [
  .choice (.var "add_comments") originNodes [],
  .text "package ".toList, .print (.member (.var "file") "package_name"), .text "\n\n".toList,
  .loop "target" (.var "type_imports") importNodes []]

/-- Whether a template begins so. -/
def hasHead : List Template.Node → Bool
  | .choice (.var "add_comments") [.text made, .print (.var "generator"), .text source,
        .print (.member (.var "file") "file_name"), .text gap] [] ::
      .text package :: .print (.member (.var "file") "package_name") :: .text behind ::
      .loop "target" (.var "type_imports") [.text word, .print (.var "target"), .text feed] [] :: _ =>
    [made, source, gap, package, behind, word, feed] = ["// Code generated by ".toList,
      ". DO NOT EDIT.\n// source: ".toList, "\n\n".toList, "package ".toList, "\n\n".toList,
      "import ".toList, "\n".toList]
  | _ => false

theorem split_of_hasHead {nodes : List Template.Node} (begins : hasHead nodes = true) :
    ∃ rest, nodes = headNodes ++ rest := by
  unfold hasHead at begins
  split at begins
  case h_1 rest =>
    have texts := of_decide_eq_true begins
    simp only [List.cons.injEq, and_true] at texts
    obtain ⟨rfl, rfl, rfl, rfl, rfl, rfl, rfl⟩ := texts
    exact ⟨rest, rfl⟩
  case h_2 => cases begins

set_option maxRecDepth 100000 in
theorem kotlin_hasHead : (parse Target.kotlin.template.toList).toOption.any hasHead = true := by
  have text : Target.kotlin.template.toList = _ := Target.toList_ofLines _
  rw [text]
  simp only [List.flatMap_cons, List.flatMap_nil]
  repeat rw [String.toList_ofList]
  decide +kernel

/-- Where a generated file comes from. -/
def origin (file : Stub.File) : String :=
  "// Code generated by " ++ generatorName ++ ". DO NOT EDIT.\n// source: " ++ file.schemaName ++ "\n\n"

def importLine (target : CodePoints) : CodePoints := .string "import " ++ target ++ .string "\n"

/-- Where a file comes from, if comments are wanted, and its package. -/
def heading (g : Generator) (file : Stub.File) (own : CodePoints) : CodePoints :=
  .string (if g.options.addComments then origin file else "") ++ .string "package " ++ own ++
    .string "\n\n"

section

variable {names : Scope} {own : CodePoints}

theorem gives_originNodes (found : names.lookup "file" = some file.view)
    (made : names.lookup "generator" = some (.text generatorName)) :
    Template.Gives names originNodes (CodePoints.string (origin file)).codes := by
  have generator : (Expr.var "generator").eval names = .ok (.text generatorName) := by
    simp only [Expr.eval, made]
    rfl
  have source : (Expr.member (.var "file") "file_name").eval names = .ok (.text file.schemaName) := by
    simp only [Expr.eval, found]
    rfl
  have parts := (Node.gives_text names "// Code generated by ").cons <|
    (Node.gives_print generator).cons <| (Node.gives_text _ ". DO NOT EDIT.\n// source: ").cons <|
    (Node.gives_print source).cons <| gives_singleton.mpr (Node.gives_text _ "\n\n")
  simp only [← CodePoints.codes_append, CodePoints.string_append_string, ← String.append_assoc] at parts
  exact parts

theorem gives_importNodes (target : CodePoints) :
    Template.Gives [("target", .text target)] importNodes (importLine target).codes := by
  have value : (Expr.var "target").eval [("target", .text target)] = .ok (.text target) := rfl
  have parts := (Node.gives_text _ "import ").cons <|
    (Node.gives_print value).cons <| gives_singleton.mpr (Node.gives_text _ "\n")
  rw [importLine, CodePoints.codes_append, CodePoints.codes_append, List.append_assoc]
  exact parts

/-- The names that a template with qualified imports can use. -/
structure QualifiedScope (g : Generator) (f : Stub.File) (names : Scope) : Prop where
  file : names.lookup "file" = some f.view
  generator : names.lookup "generator" = some (.text generatorName)
  comments : names.lookup "add_comments" = some (.bool g.options.addComments)
  imports : names.lookup "type_imports" = some (.list ((typeImports f).map Value.text))

theorem scope_qualifiedNames (style : g.target.imports = .qualifiedNames) (file : Stub.File) :
    ∃ names, g.scope file = .ok names ∧ g.QualifiedScope file names := by
  rw [scope, surroundings, importScope, style]
  exact ⟨_, rfl, rfl, rfl, rfl, rfl⟩

theorem gives_headNodes (known : g.QualifiedScope file names) (home : file.package = .text own) :
    Template.Gives names headNodes ((g.heading file own).codes ++
      (typeImports file).flatMap fun target => (importLine target).codes) := by
  have comments : (Expr.var "add_comments").eval names = .ok (.bool g.options.addComments) := by
    simp only [Expr.eval, known.comments]
    rfl
  have package : (Expr.member (.var "file") "package_name").eval names = .ok (.text own) := by
    have held := file.held_package
    rw [home] at held
    simp only [Expr.eval, known.file]
    exact attributeOf_held held
  have imports : (Expr.var "type_imports").eval names =
      .ok (.list ((typeImports file).map Value.text)) := by
    simp only [Expr.eval, known.imports]
    rfl
  have first : (Node.choice (.var "add_comments") originNodes []).Gives names
      (CodePoints.string (if g.options.addComments then origin file else "")).codes := by
    rw [Node.gives_choice comments]
    cases g.options.addComments with
    | true => exact gives_originNodes known.file known.generator
    | false => exact gives_nil.mpr rfl
  have last : (Node.loop "target" (.var "type_imports") importNodes []).Gives names
      ((typeImports file).flatMap fun target => (importLine target).codes) := by
    have itemOnly (r : Read) (may : (r.name == "target") = true) : r.name = "target" := beq_iff_eq.mp may
    refine (Node.gives_loop itemOnly rfl imports rfl).mpr ⟨_, List.flatMap_def, ?_⟩
    rw [List.forall₂_map_right_iff]
    exact List.forall₂_same.mpr fun target _ => gives_importNodes target
  have parts := first.cons <| (Node.gives_text _ "package ").cons <| (Node.gives_print package).cons <|
    (Node.gives_text _ "\n\n").cons <| gives_singleton.mpr last
  simp only [heading, CodePoints.codes_append, List.append_assoc]
  exact parts

/-- A Kotlin file begins with its heading and a line for each import. -/
theorem fillIn_kotlin (kotlin : g.target = .kotlin) (bundled : g.template = some g.target.template)
    {template : Loaded} (loaded : g.loadTemplate = .ok template) (fine : file.Good fun _ => True)
    (home : file.package = .text own) (service : Option String) :
    ∃ text rest, g.fillIn template file service = .ok text ∧ text.codes =
      (g.heading file own).codes ++
        ((typeImports file).flatMap fun target => (importLine target).codes) ++ rest := by
  have builtin : g.Builtin := ⟨kotlin ▸ List.mem_cons_self, bundled⟩
  obtain ⟨names, named, known⟩ := scope_qualifiedNames (by rw [kotlin]; rfl) file
  obtain ⟨text, rendered, -⟩ :=
    builtin.render_good Text.any_inherited.toInherited loaded fine (fun _ _ => trivial) named
  obtain ⟨later, split⟩ : ∃ later, template.content = headNodes ++ later := by
    rw [loadTemplate, bundled, kotlin] at loaded
    have begins := kotlin_hasHead
    rw [parse_of_load loaded] at begins
    exact split_of_hasHead begins
  have given : Template.Gives names (headNodes ++ later) text.codes :=
    ⟨text, split ▸ Loaded.render_ok_iff.mp rendered, rfl⟩
  obtain ⟨_, rest, codes, head, -⟩ := gives_append.mp given
  rw [head.unique (gives_headNodes known home)] at codes
  exact ⟨text, rest, (fillIn_ok_iff g).mpr ⟨names, named, rendered⟩, codes⟩

end

/-- The imports of a Kotlin file rise in the order of code points, so that each is there once. They are
the full names of the types of other files that the schema file refers to in packages other than its own
which have a name, and none besides; where the names of types have no dots, a full name says which type
that is. In the file, or in each of its files for a service, every import has a line, and these stand in
order right behind the package. An empty package goes by the text of the options, if there is one, or by
that of the language. -/
theorem typeImports_exact (g : Generator) (kotlin : g.target = .kotlin)
    (fallback : g.options.fallbackPackage.UnsetOr fun _ => True) (f : SchemaFile) :
    ∃ stub own, g.build f = .ok stub ∧ stub.package = .text own ∧
      Stub.resolvePackage f.package g.fallbackPackage = .text own ∧
      (typeImports stub).Pairwise CodePoints.Precedes ∧
      (∀ s, s ∈ typeImports stub ↔ ∃ d p, g.Needs f d p ∧ s = p ++ .string ("." ++ d.name)) ∧
      ((∀ d, f.Names d → '.' ∉ d.name.toList) → ∀ p name, '.' ∉ name.toList →
        (p ++ .string ("." ++ name) ∈ typeImports stub ↔
          ∃ d q, g.Needs f d q ∧ d.name = name ∧ q.codes = p.codes)) ∧
      ∀ template, g.template = some g.target.template → g.loadTemplate = .ok template →
        ∀ part service, (part = stub ∨ ∃ s ∈ stub.services, part = stub.forService s) →
          ∃ text rest, g.fillIn template part service = .ok text ∧
            text.codes = (g.heading stub own).codes ++
              ((typeImports stub).flatMap fun target => (importLine target).codes) ++ rest := by
  have set := g.fallbackPackage_unsetOr Text.any_inherited.toInherited fallback
  obtain ⟨stub, built⟩ := exists_build g set f
  obtain ⟨own, resolved⟩ := resolvePackage_text set f.package
  have home : stub.package = .text own := by
    obtain ⟨_, _, -, -, rfl⟩ := Stub.ofSchema_ok built
    exact resolved
  have emits : g.target.emitsTypes = true := by rw [kotlin]; rfl
  have fine : stub.Good fun _ => True := Stub.ofSchema_good Text.any_inherited
    (leaf_fits_of_unsetOr Text.any_inherited.toInherited set) built
  refine ⟨stub, own, built, home, resolved, pairwise_typeImports stub,
    fun s => mem_typeImports_iff emits set built,
    fun plain p _ free => dotted_mem_typeImports_iff emits set built plain p free, ?_⟩
  rintro template bundled loaded part service (rfl | ⟨s, member, rfl⟩)
  · exact fillIn_kotlin kotlin bundled loaded fine home service
  · exact fillIn_kotlin kotlin bundled loaded (fine.forService member) home service

/-- Kotlin without comments, with a package for files that have none. -/
def appKotlin : Generator where
  target := .kotlin
  options := { fallbackPackage := .string "app", addComments := false }

theorem typeImports_exact_crossing : appKotlin.target = .kotlin ∧
    appKotlin.options.fallbackPackage.UnsetOr (fun _ => True) ∧
    ∃ stub template text rest, appKotlin.build Stub.crossing = .ok stub ∧
      typeImports stub = [.string "app.State", .string "b.Item"] ∧
      (∀ s, s ∈ typeImports stub ↔
        ∃ d p, appKotlin.Needs Stub.crossing d p ∧ s = p ++ .string ("." ++ d.name)) ∧
      appKotlin.fillIn template stub none = .ok text ∧ text.codes =
        (CodePoints.string "package a\n\nimport app.State\nimport b.Item\n").codes ++ rest := by
  have set : appKotlin.options.fallbackPackage.UnsetOr (fun _ => True) := .inr ⟨_, rfl, trivial⟩
  have evaluated : ∃ stub ∈ (appKotlin.build Stub.crossing).toOption,
      stub.package = .text (.string "a") ∧ Stub.firstOccurrences [] ((stub.externalTypes.filter
        (isImported stub)).map fun t => (t.package.value stub.standIn).asText ++ .string ("." ++ t.name)) =
        [.string "b.Item", .string "app.State"] := by decide +kernel
  obtain ⟨template, loaded, -⟩ := Builtin.load (g := appKotlin) ⟨List.mem_cons_self, rfl⟩
  obtain ⟨stub, own, built, home, -, -, members, -, filled⟩ :=
    typeImports_exact appKotlin rfl set Stub.crossing
  obtain ⟨_, same, package, unsorted⟩ := ok_of_toOption evaluated
  cases built.symm.trans same
  cases home.symm.trans package
  have row : typeImports stub = [.string "app.State", .string "b.Item"] := by
    rw [typeImports, unsorted]
    simp [Text.sortedCodes, List.mergeSort, List.MergeSort.Internal.splitInTwo, CodePoints.codes]
  have head : appKotlin.heading stub (.string "a") = .string "package a\n\n" := rfl
  obtain ⟨text, rest, given, codes⟩ := filled template rfl loaded stub none (.inl rfl)
  refine ⟨rfl, set, stub, template, text, rest, built, row, members, given, codes.trans ?_⟩
  rw [row, head]
  exact congrArg (· ++ rest) (by decide +kernel)

end Generator

end RpcBindings
