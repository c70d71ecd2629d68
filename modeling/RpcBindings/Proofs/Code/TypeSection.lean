import RpcBindings.Proofs.Code.TypeBlocks

/-! The types in the text of a Kotlin file. Between a front and a back without lines that look like
those of types, the text has the lines of all enums and then of all messages. So the lines with
numbers, those that open the types, and the constants that are listed for an enum can be read off it. -/
namespace RpcBindings.Code

open Outcome Template
open Layout (unlines)
open Text (CodePoints OneLine split)

/-- Whether the lines with something on them of a text are those of the types of a file, between others
that do not look like them. -/
def DeclaresTypes (text : List Char) (file : Stub.File) : Prop :=
  ∃ front back, filledLines text = front ++ file.typeCode.map laid ++ back ∧
    (∀ l ∈ front, Unmarked l) ∧ ∀ l ∈ back, Unmarked l

section

variable {text : List Char} {file : Stub.File}

/-- The lines that begin like those with a number are those of the constants of all enums and of the
fields of all messages. -/
theorem DeclaresTypes.numbered (declares : DeclaresTypes text file) : (split '\n' text).filter isNumbered =
    (file.enums.flatMap fun e => e.values.map fun v => v.line.toList) ++
      file.messages.flatMap fun m => m.fields.map fun f => f.line.toList := by
  have seen (l : List Char) (numbered : isNumbered l = true) : Layout.Filled l := by
    have marked := List.isPrefixOf_iff_prefix.mp numbered
    have at_ : '@' ∈ l := marked.subset (by decide)
    exact Layout.filled_of_mem at_ (by decide)
  have same : (split '\n' text).filter isNumbered = (filledLines text).filter isNumbered := by
    rw [filledLines, List.filter_filter]
    refine List.filter_congr fun l _ => ?_
    cases numbered : isNumbered l with
    | false => rfl
    | true => rw [Bool.true_and, decide_eq_true (seen l numbered)]
  obtain ⟨front, back, lines, above, below⟩ := declares
  rw [same, lines, List.filter_append, List.filter_append, filter_unmarked above, filter_unmarked below,
    List.append_nil, List.nil_append, Stub.File.typeCode, List.map_append, List.filter_append]
  simp only [List.map_flatMap, List.filter_flatMap, filter_enum, filter_message]

/-- The lines behind marks of declarations open the enums and then the messages. -/
theorem DeclaresTypes.headings (declares : DeclaresTypes text file) :
    behind declarationMark.toList (filledLines text) =
      file.enums.map (fun e => laid (enumHeading e.name)) ++ file.messages.map fun m => laid m.heading := by
  obtain ⟨front, back, lines, above, below⟩ := declares
  have none {ls : List (List Char)} (unmarked : ∀ l ∈ ls, Unmarked l) : declarationMark.toList ∉ ls :=
    not_mem_of_unmarked unmarked (by decide)
  rw [lines, List.append_assoc, behind_append (none above), behind_types, behind_of_not_mem (none below),
    List.append_nil]

/-- The classes of enums in a text are those of the enums of the file. -/
theorem DeclaresTypes.enumClasses (declares : DeclaresTypes text file) : enumClasses (filledLines text) =
    file.enums.map fun e => ((enumHeading e.name).toList, e.constants.map laid) := by
  obtain ⟨front, back, lines, above, below⟩ := declares
  have none {ls : List (List Char)} (unmarked : ∀ l ∈ ls, Unmarked l) : ∀ l ∈ ls, ¬ enumMark.toList <+: l :=
    fun l member => unmarked l member enumMark (by decide)
  have messages : ∀ l ∈ (file.messages.flatMap (·.code)).map laid, ¬ enumMark.toList <+: l := by
    intro l member
    rw [List.map_flatMap] at member
    obtain ⟨m, -, inside⟩ := List.mem_flatMap.mp member
    exact not_enumMark_message m l inside
  have rest : Code.enumClasses back = [] := by
    have alone := enumClasses_append (none below) []
    rwa [List.append_nil] at alone
  rw [lines, List.append_assoc, enumClasses_append (none above), Stub.File.typeCode, List.map_append,
    List.append_assoc, enumClasses_enums, enumClasses_append messages, rest, List.append_nil]

end

/-! ### The template -/

/-- Whether a line is certain not to begin like those of types. -/
def isPlain (parts : List (Part Empty)) : Bool := typeMarks.all (differs ·.toList parts)

theorem unmarked_of_isPlain {parts : List (Part Empty)} {line : List Char} (checked : isPlain parts = true)
    (fits : Sheet.Fits parts line) : Unmarked line := fun mark listed =>
  not_prefix_of_differs (List.all_eq_true.mp checked mark listed) fits

theorem Unmarked.trimEnd {line : List Char} (unmarked : Unmarked line) : Unmarked (Text.trimEnd line) :=
  fun mark listed word => unmarked mark listed (word.trans (prefix_trimEnd line))

/-- Whether the types of a file are declared in the known way, and all around them is code without lines
that look like theirs. -/
def Sections.declaresTypes (shapes : Shapes) (s : Sections) : Bool :=
  allSame s.types typeNodes && allRead Sections.serviceReads s.service &&
    sheetPasses shapes s.head (·.all isPlain) && sheetPasses serviceShapes s.service (·.all isPlain)

/-- Whether a text is a template that declares types. -/
def hasTypes (shapes : Shapes) (text : List Char) : Bool :=
  match parse text with
  | .ok nodes => (Sections.ofNodes? nodes).any (·.declaresTypes shapes)
  | .error _ => false

theorem sections_of_hasTypes {shapes : Shapes} {text : List Char} {nodes : List Template.Node}
    (checked : hasTypes shapes text = true) (parsed : parse text = .ok nodes) :
    ∃ s : Sections, nodes = s.whole ∧ s.declaresTypes shapes = true := by
  simp only [hasTypes, parsed, Option.any_eq_true] at checked
  obtain ⟨s, found, declares⟩ := checked
  exact ⟨s, (Sections.whole_of_ofNodes? found).1, declares⟩

-- The template is split into the characters of its lines, as where its sections are checked.
set_option maxRecDepth 100000 in
theorem kotlin_hasTypes : hasTypes Target.kotlin.shapes Target.kotlin.template.toList = true := by
  have text : Target.kotlin.template.toList = _ := Target.toList_ofLines _
  rw [text]
  simp only [List.flatMap_cons, List.flatMap_nil]
  repeat rw [String.toList_ofList]
  decide +kernel

section

variable {shapes : Shapes} {s : Sections} {names : Scope} {file : Stub.File} {text : String}

/-- The lines of parts of a template that are checked to look like none of those of types. -/
theorem unmarked_of_sheetPasses {nodes : List Template.Node} {scope : Scope} {codes : List Nat}
    (passes : sheetPasses shapes nodes (·.all isPlain) = true) (fit : shapes.Fit OneLine scope)
    (routes : RoutesOneLine scope) (given : Template.Gives scope nodes codes) :
    ∃ ls, codes.map Char.ofNat = unlines ls ∧ ∀ l ∈ ls, '\n' ∉ l ∧ Unmarked l := by
  obtain ⟨sheet, ls, plain, allows, written⟩ := lines_of_sheetPasses passes fit routes given
  refine ⟨ls, written, fun l member => ⟨allows.oneLine l member, ?_⟩⟩
  exact Sheet.forall_of_all (fun _ _ => unmarked_of_isPlain) allows plain l member

/-- A template that declares types gives their lines between others. -/
theorem Sections.exists_typeLines (declares : s.declaresTypes shapes = true)
    (fit : shapes.Fit OneLine names) (routes : RoutesOneLine names)
    (found : names.lookup "file" = some file.view) (services : ∀ service ∈ file.services,
      serviceShapes.Fit OneLine [("service", service.view)] ∧ RoutesOneLine [("service", service.view)])
    (rendered : renderAll names s.whole = .ok (.string text)) :
    ∃ front back, text.toList = unlines (front ++ file.typeLines.map (·.toList) ++ back) ∧
      (∀ l ∈ front, '\n' ∉ l ∧ Unmarked l) ∧ ∀ l ∈ back, '\n' ∉ l ∧ Unmarked l := by
  simp only [Sections.declaresTypes, Bool.and_eq_true] at declares
  obtain ⟨⟨⟨known, own⟩, headPasses⟩, servicePasses⟩ := declares
  have given : Template.Gives names s.whole (CodePoints.string text).codes := ⟨_, rendered, rfl⟩
  obtain ⟨head, types, bodies, whole, heading, typing, coding⟩ := (Sections.gives_whole found own).mp given
  obtain ⟨front, headLines, above⟩ := unmarked_of_sheetPasses headPasses fit routes heading
  have declared : Template.Gives names s.types (CodePoints.string (Text.ofLines file.typeLines)).codes :=
    ⟨_, by rw [eq_of_allSame _ known, render_typeNodes found], rfl⟩
  have typeLines : types.map Char.ofNat = unlines (file.typeLines.map (·.toList)) := by
    have chars : (CodePoints.string (Text.ofLines file.typeLines)).codes.map Char.ofNat = _ :=
      CodePoints.chars_string _
    rw [typing.unique declared, chars, Target.toList_ofLines, unlines, List.flatMap_map]
  obtain ⟨blocks, written, -⟩ := Outcome.forall₂_follow (P := fun body ls =>
      body.map Char.ofNat = unlines ls ∧ ∀ l ∈ ls, '\n' ∉ l ∧ Unmarked l) coding
    fun service member body given => by
      obtain ⟨fit, routes⟩ := services service member
      exact unmarked_of_sheetPasses servicePasses fit routes given
  have bodyLines : bodies.flatten.map Char.ofNat = unlines blocks.flatten ∧
      ∀ l ∈ blocks.flatten, '\n' ∉ l ∧ Unmarked l := by
    clear whole coding
    induction written with
    | nil => exact ⟨rfl, List.forall_mem_nil _⟩
    | cons here _ ih =>
      refine ⟨?_, List.forall_mem_append.mpr ⟨here.2, ih.2⟩⟩
      simp only [List.flatten_cons, List.map_append, here.1, ih.1, Layout.unlines_append]
  refine ⟨front, blocks.flatten, ?_, above, bodyLines.2⟩
  have chars : text.toList = (CodePoints.string text).codes.map Char.ofNat :=
    (CodePoints.chars_string text).symm
  rw [chars, whole, List.map_append, List.map_append, headLines, typeLines, bodyLines.1,
    Layout.unlines_append, Layout.unlines_append]

/-- In its layout a text of such a template declares the types of its file. -/
theorem declaresTypes_tidy (printed : file.Printed) {front back : List (List Char)}
    (lines : text.toList = unlines (front ++ file.typeLines.map (·.toList) ++ back))
    (above : ∀ l ∈ front, '\n' ∉ l ∧ Unmarked l) (below : ∀ l ∈ back, '\n' ∉ l ∧ Unmarked l) :
    DeclaresTypes (Layout.tidy text.toList) file := by
  have whole : ∀ l ∈ front ++ file.typeLines.map (·.toList) ++ back, '\n' ∉ l := by
    refine List.forall_mem_append.mpr ⟨List.forall_mem_append.mpr ⟨?_, feed_typeLines printed⟩, ?_⟩
    · exact fun l member => (above l member).1
    · exact fun l member => (below l member).1
  have plain {ls : List (List Char)} (unmarked : ∀ l ∈ ls, '\n' ∉ l ∧ Unmarked l) :
      ∀ l ∈ (ls.filter (Layout.Filled ·)).map Text.trimEnd, Unmarked l :=
    List.forall_mem_map.mpr fun l member => (unmarked l (List.mem_of_mem_filter member)).2.trimEnd
  have types : (file.typeCode.map (·.toList)).map Text.trimEnd = file.typeCode.map laid := by
    rw [List.map_map]
    rfl
  have last : ([[]] : List (List Char)).filter (Layout.Filled ·) = [] := rfl
  refine ⟨_, _, ?_, plain above, plain below⟩
  rw [filledLines, Layout.filter_tidy, lines, Layout.split_unlines whole]
  simp only [List.filter_append, List.map_append, filter_typeLines, types, last, List.append_nil]

end

end RpcBindings.Code
