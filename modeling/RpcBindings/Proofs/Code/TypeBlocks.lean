import RpcBindings.Proofs.Code.TypeLines
import RpcBindings.Proofs.Layout

/-! The lines of Kotlin types read back: those with numbers, those behind marks of declarations, and the
classes of enums with what they list. On the blocks of types they are what the blocks were made from.
For lines of one kind begin with other characters than those of another, whatever names they hold. -/
namespace RpcBindings.Code

open Text (OneLine isBlank split trimEnd)

/-! ### Reading lines -/

/-- The lines of a text with something on them. -/
def filledLines (text : List Char) : List (List Char) := (split '\n' text).filter (Layout.Filled ·)

def numberMark : String := "    @ProtoNumber("

def enumMark : String := "enum class "

/-- Whether a line begins as those with the number of a constant or a field do. -/
def isNumbered (line : List Char) : Bool := numberMark.toList.isPrefixOf line

/-- The lines right behind those that are a mark. -/
def behind (mark : List Char) : List (List Char) → List (List Char)
  | line :: next :: rest =>
    if line = mark then next :: behind mark (next :: rest) else behind mark (next :: rest)
  | _ => []

/-- The lines that open an enum, each with those behind it up to a closing brace. -/
def enumClasses : List (List Char) → List (List Char × List (List Char))
  | [] => []
  | line :: rest =>
    if enumMark.toList.isPrefixOf line then
      (line, rest.takeWhile (· ≠ ['\x7d'])) :: enumClasses rest
    else enumClasses rest

/-- The name on the line of a constant: what stands behind the last space and before the comma. -/
def listedConstant (line : List Char) : List Char := ((split ' ' line).getLast?.getD []).dropLast

/-! ### Lines with and without marks -/

/-- What the layout leaves of a line. -/
def laid (line : String) : List Char := trimEnd line.toList

/-- What lines of types begin with. -/
def typeMarks : List String := [numberMark, declarationMark, enumMark]

/-- Whether a line begins like none of the lines of types. -/
def Unmarked (line : List Char) : Prop := ∀ mark ∈ typeMarks, ¬ mark.toList <+: line

/-- Whether two texts differ at a place that both have. -/
def clash : List Char → List Char → Bool
  | c :: s, d :: t => c != d || clash s t
  | _, _ => false

theorem not_prefix_of_clash {s t : List Char} (differ : clash s t = true) (rest : List Char) :
    ¬ s <+: t ++ rest := by
  induction s, t using clash.induct with
  | case1 c s d t ih =>
    rw [List.cons_append, List.cons_prefix_cons]
    rintro ⟨rfl, later⟩
    exact ih (by simpa [clash] using differ) later
  | case2 s t none =>
    rw [clash.eq_2 s t none] at differ
    cases differ

/-- A line that begins with other characters than a mark does not begin with the mark, nor does what the
layout leaves of it. -/
theorem not_prefix_laid {mark front : String} (differ : clash mark.toList front.toList = true)
    (rest : String) : ¬ mark.toList <+: laid (front ++ rest) := by
  intro marked
  have whole := marked.trans (prefix_trimEnd (front ++ rest).toList)
  rw [String.toList_append] at whole
  exact not_prefix_of_clash differ rest.toList whole

theorem unmarked_laid {front : String} (differ : typeMarks.all (clash ·.toList front.toList) = true)
    (rest : String) : Unmarked (laid (front ++ rest)) :=
  fun mark listed => not_prefix_laid (List.all_eq_true.mp differ mark listed) rest

/-- A line with a character at its end that is no blank stays as it is. -/
theorem laid_append {s last : String} (kept : trimEnd last.toList = last.toList) (some : last ≠ "") :
    laid (s ++ last) = (s ++ last).toList := by
  rw [laid, String.toList_append, Text.trimEnd_append, kept, if_neg (by simpa using some)]

theorem laid_enumHeading (name : String) : laid (enumHeading name) = (enumHeading name).toList :=
  laid_append (by decide) (by decide)

theorem value_line_eq (v : Stub.EnumValue) :
    v.line = numberMark ++ (v.number.repr ++ (") " ++ (v.name ++ ","))) := by
  have parts : v.line = numberMark ++ v.number.repr ++ ") " ++ v.name ++ "," := rfl
  simp only [parts, String.append_assoc]

theorem field_line_eq (f : Stub.Field) : f.line =
    numberMark ++ (f.number.repr ++ (") val " ++ (f.name ++ (": " ++ (f.type ++ (" = " ++
      (f.defaultValue ++ ","))))))) := by
  have parts : f.line = numberMark ++ f.number.repr ++ ") val " ++ f.name ++ ": " ++ f.type ++ " = " ++
      f.defaultValue ++ "," := rfl
  simp only [parts, String.append_assoc]

theorem enumHeading_eq (name : String) : enumHeading name = enumMark ++ (name ++ " \x7b") :=
  String.append_assoc ..

theorem laid_value (v : Stub.EnumValue) : laid v.line = v.line.toList := by
  rw [value_line_eq]
  simp only [← String.append_assoc]
  exact laid_append (by decide) (by decide)

theorem laid_field (f : Stub.Field) : laid f.line = f.line.toList := by
  rw [field_line_eq]
  simp only [← String.append_assoc]
  exact laid_append (by decide) (by decide)

theorem unmarked_messageHeading (m : Stub.Message) : Unmarked (laid m.heading) := by
  rw [Stub.Message.heading]
  split
  · exact unmarked_laid (by decide) _
  · rw [messageHeading, String.append_assoc]
    exact unmarked_laid (by decide) _

theorem not_mem_of_unmarked {lines : List (List Char)} (unmarked : ∀ l ∈ lines, Unmarked l) {mark : String}
    (listed : mark ∈ typeMarks) : mark.toList ∉ lines :=
  fun member => unmarked _ member mark listed List.prefix_rfl

theorem filter_unmarked {lines : List (List Char)} (unmarked : ∀ l ∈ lines, Unmarked l) :
    lines.filter isNumbered = [] := by
  refine List.filter_eq_nil_iff.mpr fun l member numbered => ?_
  exact unmarked l member numberMark (by decide) (List.isPrefixOf_iff_prefix.mp numbered)

/-! ### Numbers -/

theorem isNumbered_mark (rest : List Char) : isNumbered (numberMark.toList ++ rest) = true :=
  List.isPrefixOf_iff_prefix.mpr (List.prefix_append _ _)

theorem isNumbered_eq_false {line : List Char} (none : ¬ numberMark.toList <+: line) :
    isNumbered line = false :=
  Bool.eq_false_iff.mpr fun numbered => none (List.isPrefixOf_iff_prefix.mp numbered)

theorem isNumbered_value (v : Stub.EnumValue) : isNumbered v.line.toList = true := by
  rw [value_line_eq, String.toList_append]
  exact isNumbered_mark _

theorem isNumbered_field (f : Stub.Field) : isNumbered f.line.toList = true := by
  rw [field_line_eq, String.toList_append]
  exact isNumbered_mark _

/-- All lines of a row are left by a test that they pass. -/
theorem filter_map_all {α β : Type} {test : β → Bool} {f : α → β} (passes : ∀ x, test (f x) = true)
    (row : List α) : (row.map f).filter test = row.map f :=
  List.filter_eq_self.mpr (List.forall_mem_map.mpr fun x _ => passes x)

theorem map_laid_values (e : Stub.Enum) :
    (e.values.map (·.line)).map laid = e.values.map fun v => v.line.toList := by
  rw [List.map_map]
  refine List.map_congr_left fun v _ => ?_
  rw [Function.comp_apply, laid_value]

theorem map_laid_fields (m : Stub.Message) :
    (m.fields.map (·.line)).map laid = m.fields.map fun f => f.line.toList := by
  rw [List.map_map]
  refine List.map_congr_left fun f _ => ?_
  rw [Function.comp_apply, laid_field]

/-- The lines with numbers in an enum are those of its constants. -/
theorem filter_enum (e : Stub.Enum) :
    (e.code.map laid).filter isNumbered = e.values.map fun v => v.line.toList := by
  have heading : isNumbered (laid (enumHeading e.name)) = false := by
    rw [enumHeading_eq]
    exact isNumbered_eq_false (not_prefix_laid (by decide) _)
  have mark : isNumbered (laid declarationMark) = false := by decide
  have brace : isNumbered (laid "\x7d") = false := by decide
  have constants : (e.constants.map laid).filter isNumbered = e.values.map fun v => v.line.toList := by
    rw [Stub.Enum.constants]
    split
    case isTrue none => rw [none]; decide
    case isFalse => rw [map_laid_values, filter_map_all isNumbered_value]
  simp [Stub.Enum.code, heading, mark, brace, constants]

/-- The lines with numbers in a message are those of its fields. -/
theorem filter_message (m : Stub.Message) :
    (m.code.map laid).filter isNumbered = m.fields.map fun f => f.line.toList := by
  have heading : isNumbered (laid m.heading) = false :=
    isNumbered_eq_false (unmarked_messageHeading m numberMark (by decide))
  have mark : isNumbered (laid declarationMark) = false := by decide
  have properties : (m.properties.map laid).filter isNumbered = m.fields.map fun f => f.line.toList := by
    rw [Stub.Message.properties]
    split
    case isTrue none => rw [none]; rfl
    case isFalse =>
      have bracket : ([")"].map laid).filter isNumbered = [] := by decide
      rw [List.map_append, List.filter_append, bracket, map_laid_fields, filter_map_all isNumbered_field,
        List.append_nil]
  simp [Stub.Message.code, heading, mark, properties]

/-! ### Lines behind marks -/

section

variable {mark heading : List Char} {ls rest : List (List Char)}

theorem behind_cons_of_ne {line : List Char} (other : line ≠ mark) (ls : List (List Char)) :
    behind mark (line :: ls) = behind mark ls := by
  cases ls with
  | nil => rfl
  | cons next rest => rw [behind, if_neg other]

theorem behind_append (none : mark ∉ ls) (ms : List (List Char)) :
    behind mark (ls ++ ms) = behind mark ms := by
  induction ls with
  | nil => rfl
  | cons line ls ih =>
    obtain ⟨here, later⟩ := not_or.mp (mt List.mem_cons.mpr none)
    rw [List.cons_append, behind_cons_of_ne (Ne.symm here), ih later]

theorem behind_of_not_mem (none : mark ∉ ls) : behind mark ls = [] := by
  have alone := behind_append none []
  rwa [List.append_nil] at alone

/-- Of a block that a mark is in front of, the first line is found. -/
theorem behind_block (none : mark ∉ heading :: rest) (ms : List (List Char)) :
    behind mark (mark :: heading :: rest ++ ms) = heading :: behind mark ms := by
  have later : behind mark (heading :: (rest ++ ms)) = behind mark ms := behind_append none ms
  rw [List.cons_append, List.cons_append, behind, if_pos rfl, later]

theorem behind_blocks {α : Type} {first : α → List Char} {later : α → List (List Char)}
    (none : ∀ x, mark ∉ first x :: later x) (all : List α) (ms : List (List Char)) :
    behind mark (all.flatMap (fun x => mark :: first x :: later x) ++ ms) =
      all.map first ++ behind mark ms := by
  induction all with
  | nil => rfl
  | cons x all ih =>
    rw [List.flatMap_cons, List.append_assoc, behind_block (none x), ih, List.map_cons, List.cons_append]

end

theorem not_prefix_constants {mark : String} (number : clash mark.toList numberMark.toList = true)
    (unknown : clash mark.toList "    UNKNOWN,".toList = true) (e : Stub.Enum) :
    ∀ l ∈ e.constants.map laid, ¬ mark.toList <+: l := by
  refine List.forall_mem_map.mpr (Stub.Enum.forall_constants (not_prefix_laid unknown "") fun v _ => ?_)
  rw [value_line_eq]
  exact not_prefix_laid number _

theorem not_prefix_properties {mark : String} (number : clash mark.toList numberMark.toList = true)
    (bracket : clash mark.toList ")".toList = true) (m : Stub.Message) :
    ∀ l ∈ m.properties.map laid, ¬ mark.toList <+: l := by
  refine List.forall_mem_map.mpr (Stub.Message.forall_properties (fun f _ => ?_) (not_prefix_laid bracket ""))
  rw [field_line_eq]
  exact not_prefix_laid number _

theorem map_laid_enum (e : Stub.Enum) : e.code.map laid =
    declarationMark.toList :: laid (enumHeading e.name) :: (e.constants.map laid ++ [['\x7d']]) := by
  have mark : laid declarationMark = declarationMark.toList := by decide
  have brace : laid "\x7d" = ['\x7d'] := by decide
  simp [Stub.Enum.code, mark, brace]

theorem map_laid_message (m : Stub.Message) :
    m.code.map laid = declarationMark.toList :: laid m.heading :: m.properties.map laid := by
  have mark : laid declarationMark = declarationMark.toList := by decide
  simp [Stub.Message.code, mark]

/-- The marked lines in front of types open the enums, one after the other, and then the messages. -/
theorem behind_types (file : Stub.File) (ms : List (List Char)) :
    behind declarationMark.toList (file.typeCode.map laid ++ ms) =
      file.enums.map (fun e => laid (enumHeading e.name)) ++
        (file.messages.map (fun m => laid m.heading) ++ behind declarationMark.toList ms) := by
  have ne {line : List Char} (other : ¬ declarationMark.toList <+: line) : declarationMark.toList ≠ line :=
    fun same => other (same ▸ List.prefix_rfl)
  have enum (e : Stub.Enum) :
      declarationMark.toList ∉ laid (enumHeading e.name) :: (e.constants.map laid ++ [['\x7d']]) := by
    rw [enumHeading_eq]
    simp only [List.mem_cons, List.mem_append, List.not_mem_nil, not_or, or_false]
    refine ⟨ne (not_prefix_laid (by decide) _), fun inside => ?_, by decide⟩
    exact not_prefix_constants (by decide) (by decide) e _ inside List.prefix_rfl
  have message (m : Stub.Message) : declarationMark.toList ∉ laid m.heading :: m.properties.map laid := by
    refine mt List.mem_cons.mp (not_or.mpr ⟨ne (unmarked_messageHeading m _ (by decide)), fun inside => ?_⟩)
    exact not_prefix_properties (by decide) (by decide) m _ inside List.prefix_rfl
  rw [Stub.File.typeCode, List.map_append, List.map_flatMap, List.map_flatMap, List.append_assoc]
  simp only [map_laid_enum, map_laid_message]
  rw [behind_blocks enum, behind_blocks message]

/-! ### Classes of enums -/

theorem enumClasses_append {ls : List (List Char)} (none : ∀ l ∈ ls, ¬ enumMark.toList <+: l)
    (ms : List (List Char)) : enumClasses (ls ++ ms) = enumClasses ms := by
  induction ls with
  | nil => rfl
  | cons line ls ih =>
    obtain ⟨here, later⟩ := List.forall_mem_cons.mp none
    have other : ¬ enumMark.toList.isPrefixOf line = true := mt List.isPrefixOf_iff_prefix.mp here
    rw [List.cons_append, enumClasses, if_neg other, ih later]

/-- The class of an enum is found with all lines of its constants. -/
theorem enumClasses_enum (e : Stub.Enum) (ms : List (List Char)) :
    enumClasses (e.code.map laid ++ ms) =
      ((enumHeading e.name).toList, e.constants.map laid) :: enumClasses ms := by
  have front : ∀ l ∈ [declarationMark.toList], ¬ enumMark.toList <+: l := by decide
  have opens : enumMark.toList.isPrefixOf (laid (enumHeading e.name)) = true := by
    rw [laid_enumHeading, enumHeading_eq, String.toList_append]
    exact List.isPrefixOf_iff_prefix.mpr (List.prefix_append _ _)
  have inner : ∀ l ∈ e.constants.map laid, ¬ "\x7d".toList <+: l :=
    not_prefix_constants (by decide) (by decide) e
  have open_ : ∀ l ∈ e.constants.map laid, decide (l ≠ ['\x7d']) = true := fun l member =>
    decide_eq_true fun closing => inner l member (closing ▸ List.prefix_rfl)
  have back : ∀ l ∈ e.constants.map laid ++ [['\x7d']], ¬ enumMark.toList <+: l :=
    List.forall_mem_append.mpr ⟨not_prefix_constants (by decide) (by decide) e, by decide⟩
  have constants : (e.constants.map laid ++ [['\x7d']] ++ ms).takeWhile (· ≠ ['\x7d']) =
      e.constants.map laid := by
    rw [List.append_assoc, List.takeWhile_append_of_pos open_]
    simp
  rw [map_laid_enum, ← List.singleton_append, List.append_assoc, enumClasses_append front, List.cons_append,
    enumClasses, if_pos opens, constants, enumClasses_append back, laid_enumHeading]

theorem enumClasses_enums (all : List Stub.Enum) (ms : List (List Char)) :
    enumClasses ((all.flatMap (·.code)).map laid ++ ms) =
      all.map (fun e => ((enumHeading e.name).toList, e.constants.map laid)) ++ enumClasses ms := by
  induction all with
  | nil => rfl
  | cons e all ih =>
    rw [List.flatMap_cons, List.map_append, List.append_assoc, enumClasses_enum, ih, List.map_cons,
      List.cons_append]

theorem not_enumMark_message (m : Stub.Message) : ∀ l ∈ m.code.map laid, ¬ enumMark.toList <+: l := by
  rw [map_laid_message]
  refine List.forall_mem_cons.mpr ⟨by decide, List.forall_mem_cons.mpr ⟨?_, ?_⟩⟩
  · exact unmarked_messageHeading m enumMark (by decide)
  · exact not_prefix_properties (by decide) (by decide) m

theorem listedConstant_value {v : Stub.EnumValue} (word : ' ' ∉ v.name.toList) :
    listedConstant v.line.toList = v.name.toList := by
  have line : v.line.toList = (numberMark ++ v.number.repr ++ ")").toList ++ ' ' :: (v.name.toList ++ [',']) := by
    rw [value_line_eq]
    simp
  have last : ' ' ∉ v.name.toList ++ [','] := by simpa using word
  rw [listedConstant, line, Text.split_append_cons, Text.split_of_not_mem last]
  simp

/-- What an enum lists first: its first constant, or what stands in for one. -/
theorem listedConstant_first {e : Stub.Enum} (words : ∀ v ∈ e.values, ' ' ∉ v.name.toList) :
    (e.constants.map laid).head?.map listedConstant =
      some ((e.values.head?.map (·.name)).getD "UNKNOWN").toList := by
  have unknown : listedConstant (laid "    UNKNOWN,") = "UNKNOWN".toList := by decide
  cases values : e.values with
  | nil => simp [Stub.Enum.constants, values, unknown]
  | cons v rest =>
    have here : ' ' ∉ v.name.toList := words v (values ▸ List.mem_cons_self)
    have constant : listedConstant (laid v.line) = v.name.toList := by
      rw [laid_value, listedConstant_value here]
    simp [Stub.Enum.constants, values, constant]

/-! ### Lines with something on them -/

theorem filled_append {front : String} (some : front.toList.any (!isBlank ·) = true) (rest : String) :
    Layout.Filled (front ++ rest).toList := by
  obtain ⟨c, member, dark⟩ := List.any_eq_true.mp some
  rw [String.toList_append]
  exact Layout.filled_of_mem (List.mem_append_left _ member) (by simpa using dark)

theorem filled_value (v : Stub.EnumValue) : Layout.Filled v.line.toList := by
  rw [value_line_eq]
  exact filled_append (by decide) _

theorem filled_field (f : Stub.Field) : Layout.Filled f.line.toList := by
  rw [field_line_eq]
  exact filled_append (by decide) _

theorem filled_enum (e : Stub.Enum) : ∀ l ∈ e.code, Layout.Filled l.toList := by
  have constants : ∀ l ∈ e.constants, Layout.Filled l.toList :=
    e.forall_constants (by decide) fun v _ => filled_value v
  have heading : Layout.Filled (enumHeading e.name).toList := by
    rw [enumHeading_eq]
    exact filled_append (by decide) _
  exact Stub.Enum.forall_code (by decide) heading constants (by decide)

theorem filled_message (m : Stub.Message) : ∀ l ∈ m.code, Layout.Filled l.toList := by
  have heading : Layout.Filled m.heading.toList := by
    rw [Stub.Message.heading]
    split
    · exact filled_append (by decide) _
    · rw [messageHeading, String.append_assoc]
      exact filled_append (by decide) _
  have properties : ∀ l ∈ m.properties, Layout.Filled l.toList :=
    m.forall_properties (fun f _ => filled_field f) (by decide)
  exact Stub.Message.forall_code (by decide) heading properties

/-- Of the blocks of types, each with an empty line in front of it, all but these lines are filled. -/
theorem filter_blocks {α : Type} {code : α → List String}
    (filled : ∀ x, ∀ l ∈ code x, Layout.Filled l.toList) (all : List α) :
    ((all.flatMap fun x => "" :: code x).map (·.toList)).filter (Layout.Filled ·) =
      (all.flatMap code).map (·.toList) := by
  have blank : ¬ Layout.Filled "".toList := by decide
  have kept (x : α) : ((code x).map (·.toList)).filter (Layout.Filled ·) = (code x).map (·.toList) :=
    List.filter_eq_self.mpr (List.forall_mem_map.mpr fun l member => decide_eq_true (filled x l member))
  induction all with
  | nil => rfl
  | cons x all ih =>
    rw [List.flatMap_cons, List.map_append, List.filter_append, ih, List.map_cons, List.flatMap_cons,
      List.map_append, List.filter_cons_of_neg (by simpa using blank), kept]

theorem filter_typeLines (file : Stub.File) :
    (file.typeLines.map (·.toList)).filter (Layout.Filled ·) = file.typeCode.map (·.toList) := by
  rw [Stub.File.typeLines, List.map_append, List.filter_append, filter_blocks filled_enum,
    filter_blocks filled_message, ← List.map_append]
  rfl

/-! ### Line feeds -/

theorem feed_value {v : Stub.EnumValue} (line : OneLine v.name) : '\n' ∉ v.line.toList := by
  have mark : '\n' ∉ numberMark.toList := by decide
  rw [Text.oneLine_string] at line
  rw [value_line_eq]
  simp [mark, line, Text.feed_intRepr]

theorem feed_field {f : Stub.Field} (lines : f.Lines) : '\n' ∉ f.line.toList := by
  have mark : '\n' ∉ numberMark.toList := by decide
  have name := Text.oneLine_string.mp lines.name
  have type := Text.oneLine_string.mp lines.type
  have value := Text.oneLine_string.mp lines.defaultValue
  rw [field_line_eq]
  simp [mark, name, type, value, Text.feed_intRepr]

theorem feed_enum {e : Stub.Enum} (lines : e.Lines) : ∀ l ∈ e.code, '\n' ∉ l.toList := by
  have heading : '\n' ∉ (enumHeading e.name).toList := by
    have mark : '\n' ∉ enumMark.toList := by decide
    have name := Text.oneLine_string.mp lines.name
    rw [enumHeading_eq]
    simp [mark, name]
  have constants : ∀ l ∈ e.constants, '\n' ∉ l.toList :=
    e.forall_constants (by decide) fun v member => feed_value (lines.values v member)
  exact Stub.Enum.forall_code (by decide) heading constants (by decide)

theorem feed_message {m : Stub.Message} (lines : m.Lines) : ∀ l ∈ m.code, '\n' ∉ l.toList := by
  have heading : '\n' ∉ m.heading.toList := by
    have name := Text.oneLine_string.mp lines.name
    rw [Stub.Message.heading]
    split <;> simp [bareHeading, messageHeading, name]
  have properties : ∀ l ∈ m.properties, '\n' ∉ l.toList :=
    m.forall_properties (fun f member => feed_field (lines.fields f member)) (by decide)
  exact Stub.Message.forall_code (by decide) heading properties

theorem feed_blocks {α : Type} {code : α → List String} {all : List α}
    (free : ∀ x ∈ all, ∀ l ∈ code x, '\n' ∉ l.toList) :
    ∀ l ∈ all.flatMap fun x => "" :: code x, '\n' ∉ l.toList := by
  intro l member
  obtain ⟨x, listed, inside⟩ := List.mem_flatMap.mp member
  rcases List.mem_cons.mp inside with rfl | inside
  · decide
  · exact free x listed l inside

theorem feed_typeLines {file : Stub.File} (printed : file.Printed) :
    ∀ l ∈ file.typeLines.map (·.toList), '\n' ∉ l := by
  refine List.forall_mem_map.mpr (List.forall_mem_append.mpr ⟨?_, ?_⟩)
  · exact feed_blocks fun e listed => feed_enum (printed.enums e listed)
  · exact feed_blocks fun m listed => feed_message (printed.messages m listed)

end RpcBindings.Code
