import RpcBindings.Proofs.Code.Sections
import RpcBindings.Proofs.Target.Dispatch
import RpcBindings.Proofs.Target.Names

/-! Schema files generated as a whole and by their services. Both ways give the same code for a
service, character by character: the template writes it from the service alone, and the layout of one
section of a file has nothing to do with that of another. -/
namespace RpcBindings

open Outcome Schema Template
open Code (Header Sections isImport serviceShapes)
open Layout (neat unlines)
open Text (CodePoints OneLine)

namespace Text

/-- A text without surrogates is a string. -/
theorem CodePoints.exists_string_append {s t : CodePoints}
    (valid : ∀ code ∈ (s ++ t).codes, code.isValidChar) : ∃ text, s ++ t = .string text := by
  rw [codes_append] at valid
  have encoded : ∃ text, ofCodes (s.codes ++ t.codes) = .string text := by
    have all : (s.codes ++ t.codes).all (fun code => decide code.isValidChar) = true :=
      List.all_eq_true.mpr fun code member => decide_eq_true (valid code member)
    exact ⟨_, if_pos all⟩
  cases s with
  | broken s => exact encoded
  | string s =>
    cases t with
    | string t => exact ⟨s ++ t, rfl⟩
    | broken t => exact encoded

end Text

namespace Template

/-- A template that gives no surrogates gives a string. -/
theorem Gives.string {scope : Scope} {nodes : List Node} {codes : List Nat}
    (given : Gives scope nodes codes) (valid : ∀ code ∈ codes, code.isValidChar) :
    ∃ text : String, renderAll scope nodes = .ok (.string text) ∧ text.toList = codes.map Char.ofNat := by
  obtain ⟨text, done, rfl⟩ := given
  have string : ∃ s, text = .string s := by
    cases nodes with
    | nil =>
      cases done
      exact ⟨"", rfl⟩
    | cons node rest =>
      simp only [renderAll, bind_ok_iff, pure_ok, Except.ok.injEq] at done
      obtain ⟨front, -, back, -, rfl⟩ := done
      exact CodePoints.exists_string_append valid
  obtain ⟨s, rfl⟩ := string
  exact ⟨s, done, (CodePoints.chars_string s).symm⟩

end Template

namespace Generator

variable {g : Generator} {template : Loaded} {file : Stub.File} {names : Scope}

/-! ### Names for the template -/

theorem lookup_importScope {imports : Scope} (made : g.importScope file = .ok imports) :
    imports.lookup "service" = none := by
  unfold importScope at made
  split at made
  · cases made
    rfl
  · cases made
    rfl
  · obtain ⟨path, -, rest⟩ := bind_ok_iff.mp made
    cases rest
    rfl

/-- Outside of the code for a service there is none at hand. -/
theorem routesOneLine_scope (made : g.scope file = .ok names) : RoutesOneLine names := by
  obtain ⟨around, surrounded, rest⟩ := bind_ok_iff.mp made
  cases rest
  obtain ⟨imports, imported, rest⟩ := bind_ok_iff.mp surrounded
  cases rest
  have none := lookup_importScope imported
  intro name stem owner found
  simp [routeMember, Expr.eval, List.lookup_cons, none, builtinScope] at found

/-- The names for a part of a file say the same of its head. -/
theorem scope_forService (made : g.scope file = .ok names)
    (document : (file.package.value file.standIn).isDocument = true) (s : Stub.Service) :
    ∃ part, g.scope (file.forService s) = .ok part ∧
      part.lookup "file" = some (file.forService s).view ∧ Agree Sections.headReads names part := by
  obtain ⟨around, surrounded, rest⟩ := bind_ok_iff.mp made
  cases rest
  have same : g.surroundings (file.forService s) = .ok around := surrounded
  refine ⟨("file", (file.forService s).view) :: around, ?_, rfl, fun r may => ?_⟩
  · rw [scope, same]
    rfl
  · have package : attributeOf file.view "package_name" =
        attributeOf (file.forService s).view "package_name" := by
      have other : ((file.forService s).package.value (file.forService s).standIn).isDocument = true :=
        document
      rw [attributeOf_held file.held_package, attributeOf_held (file.forService s).held_package,
        ownedBy_of_document document, ownedBy_of_document other]
      rfl
    simp only [Sections.headReads, Bool.or_eq_true, bne_iff_ne, beq_iff_eq] at may
    rcases may with (other | rfl) | rfl
    · cases r with
      | whole key =>
        simp [Read.expr, Expr.eval, List.lookup_cons, beq_false_of_ne (show key ≠ "file" from other)]
      | member key field =>
        simp [Read.expr, Expr.eval, List.lookup_cons, beq_false_of_ne (show key ≠ "file" from other)]
    · rfl
    · exact package

/-- What the code for a service is written from. -/
theorem serviceShapes_fit {s : Stub.Service} (lines : s.Lines) :
    serviceShapes.Fit OneLine [("service", s.view)] ∧ RoutesOneLine [("service", s.view)] := by
  refine ⟨(Shapes.fit_nil _).cons lines.view_fits "service", fun name stem owner found => ?_⟩
  cases found
  exact lines.name.append (Text.oneLine_string.mpr (by decide))

/-! ### The code for the services of a file -/

theorem Builtin.sections (builtin : g.Builtin) (loaded : g.loadTemplate = .ok template) :
    ∃ s : Sections, template.content = s.whole ∧
      (∀ node ∈ s.types, Sections.isTypeLoop node = true) ∧
      s.fits g.target.shapes = true := by
  have read : Template.load g.target.templateName g.target.template = .ok template := by
    rw [← loaded, loadTemplate, builtin.template]
  exact Code.sections_of_hasSections (Code.hasSections_builtin builtin.target) (parse_of_load read)

/-- Whether a text is a header, up to the last of its lines with an import, and a body. -/
def Cuts (text header body : List Char) : Prop :=
  text = header ++ body ∧ Layout.cutBehind isImport text = (header, body)

/-- How the text of a file with services comes to its layout. The text for a service has the same
layout behind its own head, which is that of the file if there are no types in it. -/
theorem Builtin.layout_services (builtin : g.Builtin) (loaded : g.loadTemplate = .ok template)
    (own : g.Lines) (printed : file.Printed)
    (document : (file.package.value file.standIn).isDocument = true) (served : file.services ≠ [])
    {text : String} (filled : g.fillIn template file none = .ok (.string text)) :
    ∃ header front bodies, Layout.tidy text.toList = front ++ List.flatten bodies ∧
      List.Forall₂ (fun s body => ∃ part : String,
        g.fillIn template (file.forService s) (some s.name) = .ok (.string part) ∧
        Cuts (Layout.tidy part.toList) header body) file.services bodies ∧
      (Sections.NoTypes file → front = header) := by
  obtain ⟨names, made, rendered⟩ := (fillIn_ok_iff g).mp filled
  obtain ⟨s, nodes, loops, fits⟩ := builtin.sections loaded
  have found := g.lookup_file made
  have given : Template.Gives names s.whole (CodePoints.string text).codes :=
    ⟨_, nodes ▸ Loaded.render_ok_iff.mp rendered, rfl⟩
  obtain ⟨hs, ps, ts, blocks, written⟩ := Sections.exists_written fits loops
    (own.printed_fit printed made) (routesOneLine_scope made) found served
    (fun service member => serviceShapes_fit (printed.services service member)) given
  refine ⟨unlines (neat ps), unlines (neat hs) ++ unlines (neat ts), blocks.map (unlines ∘ neat),
    ?_, ?_, fun bare => ?_⟩
  · have chars : text.toList = unlines (hs ++ ts ++ blocks.flatten) :=
      (CodePoints.chars_string text).symm.trans written.chars
    rw [chars]
    refine Code.tidy_bodies written.block written.whole written.closed fun b member => ?_
    obtain ⟨_, -, body, -⟩ := forall₂_left written.below member
    exact body
  · rw [List.forall₂_map_right_iff]
    refine written.below.imp fun service ls below => ?_
    obtain ⟨isBody, body, inText, below, lines⟩ := below
    obtain ⟨plain, inHead, above, plainLines⟩ := written.above
    obtain ⟨part, partMade, partFound, agree⟩ := scope_forService made document service
    simp only [Sections.fits, Bool.and_eq_true] at fits
    obtain ⟨⟨⟨⟨⟨headReads, serviceReads⟩, -⟩, -⟩, -⟩, -⟩ := fits
    have gives := Sections.gives_part partFound loops serviceReads headReads agree above below
    have valid : ∀ code ∈ plain ++ body, code.isValidChar := by
      intro code member
      refine CodePoints.isValidChar_of_string (s := text) ?_
      rcases List.mem_append.mp member with first | second
      · exact inHead first
      · exact inText second
    obtain ⟨codes, done, spelled⟩ := gives.string valid
    have chars : codes.toList = unlines (ps ++ ls) := by
      rw [spelled, List.map_append, plainLines, lines, Layout.unlines_append]
    obtain ⟨laid, cut⟩ := written.header.cutBehind_tidy isBody
    refine ⟨codes, ?_, chars ▸ laid, chars ▸ cut⟩
    exact (fillIn_ok_iff g).mpr ⟨part, partMade, Loaded.render_ok_iff.mpr (nodes ▸ done)⟩
  · obtain ⟨rfl, rfl⟩ := written.bare bare
    exact List.append_nil _

/-! ### Both ways to generate a file -/

theorem fallbackPackage_printsLine (builtin : g.target ∈ Target.builtins)
    (fallback : g.options.fallbackPackage.PrintsLine) : g.fallbackPackage.PrintsLine := by
  unfold fallbackPackage
  split
  · cases own : g.target.fallbackPackage with
    | none => exact .null
    | some s =>
      exact .string (Text.oneLine_string.mpr ((Target.builtins_texts g.target builtin).2 s own))
  · exact fallback

/-- The generator with a choice of how to split its output. -/
def splitting (g : Generator) (granularity : Granularity) : Generator :=
  { g with options := { g.options with granularity := some granularity } }

/-- Whether the text of a generated file is a header and a body. -/
def HasBody (header : List Char) (part : OutputFile) (body : List Char) : Prop :=
  ∃ text : String, part.content = text.toUTF8 ∧ Cuts text.toList header body

theorem Builtin.generateFile_split (builtin : g.Builtin) (loaded : g.loadTemplate = .ok template)
    (own : g.Lines) {f : SchemaFile} (lines : f.Lines)
    (fallback : g.options.fallbackPackage.PrintsLine) {outputs : List OutputFile}
    (generated : (g.splitting .perFile).generateFile template f = .ok outputs) :
    ∃ whole parts, outputs = [whole] ∧ (g.splitting .perService).generateFile template f = .ok parts ∧
      (f.services ≠ [] → ∃ (header front : List Char) (bodies : List (List Char)) (text : String),
        List.Forall₂ (HasBody header) parts bodies ∧ whole.content = text.toUTF8 ∧
        text.toList = front ++ bodies.flatten ∧ (g.target.emitsTypes = false → front = header)) := by
  obtain ⟨file, codes, text, built, filled, laid, rfl⟩ :=
    generateFile_perFile_ok (g.splitting .perFile) rfl generated
  rw [generateFile_perService (g.splitting .perService) built rfl]
  obtain ⟨typePrefix, types, -, -, shape⟩ := Stub.ofSchema_ok built
  have services : file.services = f.services.map (Stub.buildService typePrefix) := by rw [shape]
  by_cases served : f.services = []
  · refine ⟨_, [], rfl, ?_, fun some => absurd served some⟩
    rw [services, served]
    rfl
  have standIn := fallbackPackage_printsLine builtin.target fallback
  have types : ∀ s ∈ g.buildOptions.types.texts, OneLine s :=
    fun s member => Target.oneLine_of_types builtin.target member
  have printed : file.Printed := Stub.ofSchema_printed lines standIn types built
  have document : (file.package.value file.standIn).isDocument = true := by
    rw [shape]
    exact (Stub.resolvePackage_prints lines.package standIn).document
  obtain ⟨s, rfl, rfl⟩ := Layout.tidyText_ok laid
  have listed : file.services ≠ [] := by simpa [services] using served
  obtain ⟨header, front, bodies, whole, each, bare⟩ :=
    builtin.layout_services loaded own printed document listed filled
  obtain ⟨parts, made, split⟩ : ∃ parts, file.services.mapM (fun s =>
      g.output template file (file.forService s) (.some s.name)) = .ok parts ∧
      List.Forall₂ (HasBody header) parts bodies := by
    refine mapM_ok_forall₂ (each.imp fun s body part => ?_)
    obtain ⟨part, filled, split, cut⟩ := part
    refine ⟨_, (output_ok_iff g).mpr ⟨_, _, filled, rfl, rfl⟩, _, rfl, ?_⟩
    rw [Text.toList_onString]
    exact ⟨split, cut⟩
  refine ⟨_, parts, rfl, made, fun _ => ⟨header, front, bodies, _, split, rfl, ?_, fun noTypes => ?_⟩⟩
  · rw [Text.toList_onString, whole]
  · have emits : (g.splitting .perFile).buildOptions.emitsTypes = false := noTypes
    refine bare ?_
    rw [shape]
    simp [Sections.NoTypes, emits]

/-- A language gives the same code for a service whether it generates a schema file as a whole or by
its services, if no name and no setting has a line feed in it. Generated by its services, a file gives
one text for each of them, in order: all have the same header, up to the last line with an import, and
behind it a body. Generated as a whole, it ends in these bodies; if the language declares no types, all
that it has in front of them is that header. -/
theorem granularities_agree (g : Generator) (builtin : g.Builtin)
    (fallback : g.options.fallbackPackage.PrintsLine)
    (output : ∀ s, g.options.runtimeOutput = .text s → OneLine s) (f : SchemaFile) (lines : f.Lines) :
    ∃ template, g.loadTemplate = .ok template ∧
      (g.options.fallbackPackage.UnsetOr Text.IsString →
        g.options.runtimeOutput.UnsetOr Text.IsString →
        ∃ whole, (g.splitting .perFile).generateFile template f = .ok [whole]) ∧
      (∀ parts, (g.splitting .perService).generateFile template f = .ok parts →
        parts.map (·.name) = f.services.map fun s =>
          .string (Stub.stripExtension f.name ++ g.ending (some s.name))) ∧
      ∀ outputs, (g.splitting .perFile).generateFile template f = .ok outputs →
        ∃ whole parts, outputs = [whole] ∧
          (g.splitting .perService).generateFile template f = .ok parts ∧
          (f.services ≠ [] →
            ∃ (header front : List Char) (bodies : List (List Char)) (text : String),
              List.Forall₂ (HasBody header) parts bodies ∧ whole.content = text.toUTF8 ∧
              text.toList = front ++ bodies.flatten ∧
              (g.target.emitsTypes = false → front = header)) := by
  obtain ⟨template, loaded, -⟩ := builtin.load
  have own := lines_of_settings builtin.target fun _ => output
  have split {outputs : List OutputFile} :=
    @Builtin.generateFile_split g template builtin loaded own f lines fallback outputs
  refine ⟨template, loaded, fun unset unnamed => ?_, fun parts made => ?_, fun outputs => split⟩
  · have same : (g.splitting .perFile).Builtin := ⟨builtin.target, builtin.template⟩
    obtain ⟨outputs, generated⟩ := same.generateFile_strings loaded f unset unnamed
    obtain ⟨whole, -, rfl, -⟩ := split generated
    exact ⟨whole, generated⟩
  · exact (generateFile_fileNames made).trans List.map_map

/-- A schema file with two services. -/
def greeters : SchemaFile := { greeter with
  services := greeter.services ++ [⟨"HTTPGate", "acme.v1.HTTPGate", []⟩] }

theorem granularities_agree_greeters : ∃ (template : Loaded) (whole first second : OutputFile)
    (header b c : List Char) (text : String),
    (⟨.swift, {}, some Target.swift.template⟩ : Generator).loadTemplate = .ok template ∧
    ((⟨.swift, {}, some Target.swift.template⟩ : Generator).splitting .perFile).generateFile
      template greeters = .ok [whole] ∧
    ((⟨.swift, {}, some Target.swift.template⟩ : Generator).splitting .perService).generateFile
      template greeters = .ok [first, second] ∧
    first.name = "acme/greeter_greeter.klm.swift" ∧ second.name = "acme/greeter_h_t_t_p_gate.klm.swift" ∧
    HasBody header first b ∧ HasBody header second c ∧
    whole.content = text.toUTF8 ∧ text.toList = header ++ (b ++ c) := by
  have builtin : (⟨.swift, {}, some Target.swift.template⟩ : Generator).Builtin  :=
    ⟨List.mem_cons_of_mem _ List.mem_cons_self, rfl⟩
  have plain : greeters.Plain := by decide +kernel
  obtain ⟨template, loaded, generated, named, agree⟩ :=
    granularities_agree ⟨.swift, {}, some Target.swift.template⟩ builtin .null nofun greeters
      plain.lines
  obtain ⟨whole, made⟩ := generated (.inl rfl) (.inl rfl)
  obtain ⟨_, parts, only, split, bodies⟩ := agree _ made
  cases only
  obtain ⟨header, front, bodies, text, each, content, ends, same⟩ := bodies (List.cons_ne_nil _ _)
  have names : parts.map (·.name) =
      ["acme/greeter_greeter.klm.swift", "acme/greeter_h_t_t_p_gate.klm.swift"].map .string := by
    rw [named parts split]
    decide +kernel
  have alone : front = header := same rfl
  obtain ⟨first, second, rfl⟩ : ∃ first second, parts = [first, second] :=
    List.length_eq_two.mp (by simpa using congrArg List.length names)
  obtain ⟨own, next⟩ : first.name = "acme/greeter_greeter.klm.swift" ∧
      second.name = "acme/greeter_h_t_t_p_gate.klm.swift" := by simpa using names
  obtain ⟨b, c, rfl⟩ := List.length_eq_two.mp each.length_eq.symm
  obtain ⟨one, other⟩ : HasBody header first b ∧ HasBody header second c := by
    simpa using each
  refine ⟨template, whole, first, second, header, b, c, text, loaded, made, split, own, next, one,
    other, content, ?_⟩
  rw [ends, alone, List.flatten_cons, List.flatten_cons, List.flatten_nil, List.append_nil]

end Generator

end RpcBindings
