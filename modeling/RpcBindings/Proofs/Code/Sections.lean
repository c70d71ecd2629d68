import RpcBindings.Proofs.Code.Service
import RpcBindings.Proofs.Code.Sheet
import RpcBindings.Proofs.Code.Types

/-! Templates in three sections: the head of the file with the imports, the types that it declares, and
the code for its services, one after the other. The head knows of the services only whether there are
any, and of the types only whether they have to be imported for; the code for a service knows of
nothing else. -/
namespace RpcBindings

open Outcome Template
open Layout (Block Closed neat unlines)
open Text (CodePoints OneLine isBlank trimEnd)

namespace Template

/-! ### What parts of a template give -/

variable {scope other : Scope} {nodes : List Node} {codes : List Nat}

/-- Whether a part of a template gives a row of code points. -/
def Node.Gives (scope : Scope) (node : Node) (codes : List Nat) : Prop :=
  ∃ text, node.render scope = .ok text ∧ text.codes = codes

def Gives (scope : Scope) (nodes : List Node) (codes : List Nat) : Prop :=
  ∃ text, renderAll scope nodes = .ok text ∧ text.codes = codes

theorem Gives.unique {a b : List Nat} (first : Gives scope nodes a) (second : Gives scope nodes b) :
    a = b := by
  obtain ⟨text, done, rfl⟩ := first
  obtain ⟨_, again, rfl⟩ := second
  cases done.symm.trans again
  rfl

theorem gives_nil : Gives scope [] codes ↔ codes = [] := by
  constructor
  · rintro ⟨_, ⟨⟩, rfl⟩
    rfl
  · rintro rfl
    exact ⟨.string "", rfl, rfl⟩

theorem gives_cons {node : Node} {rest : List Node} : Gives scope (node :: rest) codes ↔
    ∃ a b, codes = a ++ b ∧ node.Gives scope a ∧ Gives scope rest b := by
  constructor
  · rintro ⟨text, done, rfl⟩
    simp only [renderAll, bind_ok_iff, pure_ok, Except.ok.injEq] at done
    obtain ⟨front, first, back, second, rfl⟩ := done
    exact ⟨_, _, CodePoints.codes_append .., ⟨front, first, rfl⟩, back, second, rfl⟩
  · rintro ⟨_, _, rfl, ⟨front, first, rfl⟩, back, second, rfl⟩
    exact ⟨front ++ back, by simp [renderAll, first, second], CodePoints.codes_append ..⟩

theorem gives_append {front back : List Node} : Gives scope (front ++ back) codes ↔
    ∃ a b, codes = a ++ b ∧ Gives scope front a ∧ Gives scope back b := by
  induction front generalizing codes with
  | nil => simp [gives_nil]
  | cons node rest ih =>
    simp only [List.cons_append, gives_cons, ih]
    constructor
    · rintro ⟨a, _, rfl, first, b, c, rfl, second, third⟩
      exact ⟨a ++ b, c, (List.append_assoc ..).symm, ⟨a, b, rfl, first, second⟩, third⟩
    · rintro ⟨_, c, rfl, ⟨a, b, rfl, first, second⟩, third⟩
      exact ⟨a, b ++ c, List.append_assoc .., first, b, c, rfl, second, third⟩

theorem gives_singleton {node : Node} : Gives scope [node] codes ↔ node.Gives scope codes := by
  simp [gives_cons, gives_nil]

theorem Gives.congr {allowed : Read → Bool} (agree : Agree allowed scope other)
    (reads : allRead allowed nodes = true) : Gives scope nodes codes ↔ Gives other nodes codes := by
  rw [Gives, Gives, renderAll_congr nodes agree reads]

/-- Parts may be put in the place of others that give the same. -/
theorem gives_flatMap {change : Node → List Node}
    (same : ∀ node codes, Gives scope (change node) codes ↔ node.Gives scope codes) :
    Gives scope (nodes.flatMap change) codes ↔ Gives scope nodes codes := by
  induction nodes generalizing codes with
  | nil => rfl
  | cons node rest ih => simp only [List.flatMap_cons, gives_append, gives_cons, same, ih]

/-- Parts may be left out that give nothing. -/
theorem gives_filter {kept : Node → Bool}
    (empty : ∀ node ∈ nodes, kept node = false → ∀ codes, node.Gives scope codes ↔ codes = []) :
    Gives scope (nodes.filter kept) codes ↔ Gives scope nodes codes := by
  induction nodes generalizing codes with
  | nil => rfl
  | cons node rest ih =>
    obtain ⟨here, later⟩ := List.forall_mem_cons.mp empty
    by_cases stays : kept node = true
    · simp only [List.filter_cons_of_pos stays, gives_cons, ih later]
    · have left : kept node = false := by simpa using stays
      simp [List.filter_cons_of_neg stays, gives_cons, ih later, here left]

/-- What is left of some parts gives what they do, but for some of its code points. -/
theorem Gives.filter (given : Gives scope nodes codes) (kept : Node → Bool) :
    ∃ part, Gives scope (nodes.filter kept) part ∧ part.Sublist codes := by
  induction nodes generalizing codes with
  | nil => exact ⟨codes, given, .refl codes⟩
  | cons node rest ih =>
    obtain ⟨a, b, rfl, here, later⟩ := gives_cons.mp given
    obtain ⟨part, left, inside⟩ := ih later
    by_cases stays : kept node = true
    · rw [List.filter_cons_of_pos stays]
      exact ⟨a ++ part, gives_cons.mpr ⟨a, part, rfl, here, left⟩, inside.append_left a⟩
    · rw [List.filter_cons_of_neg stays]
      exact ⟨part, left, inside.trans (List.sublist_append_right a b)⟩

/-- A choice gives what the branch that is taken does. -/
theorem Node.gives_choice {test : Expr} {yes no : List Node} {v : Value}
    (evaluated : test.eval scope = .ok v) : (Node.choice test yes no).Gives scope codes ↔
      Template.Gives scope (if v.truthy then yes else no) codes := by
  rw [Node.Gives, Template.Gives, Node.render, evaluated, ok_bind]
  split <;> rfl

/-- Rounds that only depend on their items give what they do one after the other. -/
theorem rounds_gives {α : Type} {view : α → Value} {body : Value → Except RenderError CodePoints}
    {all : List α} (index : Nat) : (∃ text, rounds (fun _ item => body item) index (all.map view) =
        .ok text ∧ text.codes = codes) ↔
      ∃ parts, codes = parts.flatten ∧
        List.Forall₂ (fun x part => ∃ text, body (view x) = .ok text ∧ text.codes = part) all parts := by
  induction all generalizing index codes with
  | nil =>
    constructor
    · rintro ⟨_, ⟨⟩, rfl⟩
      exact ⟨[], rfl, .nil⟩
    · rintro ⟨_, rfl, ⟨⟩⟩
      exact ⟨.string "", rfl, rfl⟩
  | cons x rest ih =>
    constructor
    · rintro ⟨text, done, rfl⟩
      simp only [List.map_cons, rounds, bind_ok_iff, pure_ok, Except.ok.injEq] at done
      obtain ⟨front, first, back, second, rfl⟩ := done
      obtain ⟨parts, split, each⟩ := (ih (index + 1)).mp ⟨back, second, rfl⟩
      exact ⟨front.codes :: parts, by rw [CodePoints.codes_append, split, List.flatten_cons],
        .cons ⟨front, first, rfl⟩ each⟩
    · rintro ⟨_, rfl, each⟩
      cases each with
      | @cons _ _ _ parts here later =>
        obtain ⟨front, first, rfl⟩ := here
        obtain ⟨back, second, same⟩ := (ih (index + 1)).mpr ⟨parts, rfl, later⟩
        refine ⟨front ++ back, by simp [rounds, first, second], ?_⟩
        rw [CodePoints.codes_append, same, List.flatten_cons]

/-- A loop whose body reads nothing but the item gives what the body does for each item. -/
theorem Node.gives_loop {α : Type} {view : α → Value} {all : List α} {name : String} {source : Expr}
    {body : List Node} {v : Value} {allowed : Read → Bool} (own : ∀ r, allowed r = true → r.name = name)
    (reads : allRead allowed body = true) (evaluated : source.eval scope = .ok v)
    (found : items v = .ok (all.map view)) : (Node.loop name source body []).Gives scope codes ↔
      ∃ parts, codes = parts.flatten ∧
        List.Forall₂ (fun x part => Template.Gives [(name, view x)] body part) all parts := by
  have round (index : Nat) (item : Value) :
      renderAll (loopScope scope name (all.map view) index item) body = renderAll [(name, item)] body := by
    refine renderAll_congr body (fun r may => ?_) reads
    have same := own r may
    cases r with
    | whole key =>
      obtain rfl : key = name := same
      simp [Read.expr, Expr.eval, loopScope]
    | member key field =>
      obtain rfl : key = name := same
      simp [Read.expr, Expr.eval, loopScope]
  have rendered : (Node.loop name source body []).render scope =
      rounds (fun _ item => renderAll [(name, item)] body) 0 (all.map view) := by
    rw [Node.render, evaluated, ok_bind, found, ok_bind]
    simp only [round]
    cases all <;> rfl
  rw [Node.Gives, rendered]
  exact rounds_gives 0

end Template

namespace Code

/-! ### Sections -/

def servicesRow : Expr := .member (.var "file") "services"

/-- The head of a template, the types behind it, and the code for a service. -/
structure Sections where
  head : List Template.Node
  types : List Template.Node
  service : List Template.Node

namespace Sections

/-- All of a template. -/
def whole (s : Sections) : List Template.Node :=
  s.head ++ s.types ++ [.loop "service" servicesRow s.service []]

/-- Whether a part is a loop over the enums or the messages of the file. -/
def isTypeLoop : Template.Node → Bool
  | .loop _ (.member (.var "file") row) _ [] => row == "enums" || row == "messages"
  | _ => false

/-- The sections of a template that ends in a loop over the services, behind loops over types. -/
def ofNodes? (nodes : List Template.Node) : Option Sections :=
  match nodes.getLast? with
  | some (.loop "service" (.member (.var "file") "services") service []) =>
    let front := nodes.dropLast.reverse
    some ⟨(front.dropWhile isTypeLoop).reverse, (front.takeWhile isTypeLoop).reverse, service⟩
  | _ => none

theorem whole_of_ofNodes? {nodes : List Template.Node} {s : Sections} (found : ofNodes? nodes = some s) :
    nodes = s.whole ∧ ∀ node ∈ s.types, isTypeLoop node = true := by
  unfold ofNodes? at found
  split at found
  case h_1 service last =>
    cases found
    constructor
    · have split := List.takeWhile_append_dropWhile (p := isTypeLoop) (l := nodes.dropLast.reverse)
      have front : (nodes.dropLast.reverse.dropWhile isTypeLoop).reverse ++
          (nodes.dropLast.reverse.takeWhile isTypeLoop).reverse = nodes.dropLast := by
        rw [← List.reverse_append, split, List.reverse_reverse]
      rw [whole, front]
      exact (List.dropLast_append_getLast? _ last).symm
    · intro node member
      exact List.all_eq_true.mp List.all_takeWhile node (List.mem_reverse.mp member)
  case h_2 => cases found

/-- What a part of the head comes to if there are services. -/
def withServices : Template.Node → List Template.Node
  | .choice (.member (.var "file") "services") yes _ => yes
  | node => [node]

/-- Whether a part is only there for the sake of types. -/
def isTypeChoice : Template.Node → Bool
  | .choice (.or (.member (.var "file") "enums") (.member (.var "file") "messages")) _ [] => true
  | _ => false

/-- The head of a file with services. -/
def opened (s : Sections) : List Template.Node := s.head.flatMap withServices

/-- The head of a file with services but no types. -/
def plainHead (s : Sections) : List Template.Node := s.opened.filter (!isTypeChoice ·)

/-- Where the head may look: at the name and the package of the file, and at other names. -/
def headReads (r : Read) : Bool :=
  r.name != "file" || r == .member "file" "file_name" || r == .member "file" "package_name"

def serviceReads (r : Read) : Bool := r.name == "service"

/-! ### Sections of a file -/

section

variable {s : Sections} {names : Scope} {file : Stub.File} {codes : List Nat}

theorem gives_opened (found : names.lookup "file" = some file.view) (served : file.services ≠ []) :
    Template.Gives names s.opened codes ↔ Template.Gives names s.head codes := by
  refine gives_flatMap fun node codes => ?_
  unfold withServices
  split
  case h_1 yes no =>
    have holds : (Value.tuple (file.services.map (·.view))).truthy = true := by
      simpa [Value.truthy] using served
    rw [Node.gives_choice (eval_services found), if_pos holds]
  case h_2 => exact gives_singleton

/-- Whether a file declares no types. -/
def NoTypes (file : Stub.File) : Prop := file.enums = [] ∧ file.messages = []

theorem eval_types (found : names.lookup "file" = some file.view) (bare : NoTypes file) {row : String}
    (either : row = "enums" ∨ row = "messages") :
    (Expr.member (.var "file") row).eval names = .ok (.tuple []) := by
  rcases either with rfl | rfl
  · exact (listed_enums found).found.trans (by rw [bare.1]; rfl)
  · exact (listed_messages found).found.trans (by rw [bare.2]; rfl)

theorem gives_plainHead (found : names.lookup "file" = some file.view) (bare : NoTypes file) :
    Template.Gives names s.plainHead codes ↔ Template.Gives names s.opened codes := by
  refine gives_filter fun node _ only codes => ?_
  unfold isTypeChoice at only
  split at only
  case h_1 yes =>
    have neither : (Expr.or (.member (.var "file") "enums") (.member (.var "file") "messages")).eval
        names = .ok (.tuple []) := by
      rw [Expr.eval, eval_types found bare (.inl rfl), ok_bind]
      exact eval_types found bare (.inr rfl)
    rw [Node.gives_choice neither]
    exact gives_nil
  case h_2 => cases only

theorem gives_types (found : names.lookup "file" = some file.view) (bare : NoTypes file)
    (loops : ∀ node ∈ s.types, isTypeLoop node = true) :
    Template.Gives names s.types codes ↔ codes = [] := by
  have none : Template.Gives names (s.types.filter fun _ => false) codes ↔ codes = [] := by
    rw [show s.types.filter (fun _ => false) = [] by simp]
    exact gives_nil
  rw [← none]
  refine (gives_filter fun node member _ codes => ?_).symm
  have loop := loops node member
  unfold isTypeLoop at loop
  split at loop
  case h_1 name row body =>
    have either : row = "enums" ∨ row = "messages" := by simpa using loop
    have rendered : (Node.loop name (.member (.var "file") row) body []).render names = .ok (.string "") := by
      rw [Node.render, eval_types found bare either]
      rfl
    have empty : Template.Gives names [] codes ↔ codes = [] := gives_nil
    rw [Node.Gives, rendered]
    exact empty
  case h_2 => cases loop

/-- A template gives its head, its types, and the code for one service after the other. -/
theorem gives_whole (found : names.lookup "file" = some file.view)
    (own : allRead serviceReads s.service = true) : Template.Gives names s.whole codes ↔
      ∃ head types bodies, codes = head ++ types ++ bodies.flatten ∧ Template.Gives names s.head head ∧
        Template.Gives names s.types types ∧
        List.Forall₂ (fun service body => Template.Gives [("service", service.view)] s.service body)
          file.services bodies := by
  have services {codes : List Nat} : (Node.loop "service" servicesRow s.service []).Gives names codes ↔
      ∃ bodies, codes = List.flatten bodies ∧ List.Forall₂ (fun service body =>
        Template.Gives [("service", service.view)] s.service body) file.services bodies :=
    Node.gives_loop (fun r reads => beq_iff_eq.mp reads) own (eval_services found) rfl
  simp only [whole, gives_append, gives_singleton, services]
  constructor
  · rintro ⟨_, _, rfl, ⟨head, types, rfl, first, second⟩, bodies, rfl, third⟩
    exact ⟨head, types, bodies, rfl, first, second, third⟩
  · rintro ⟨head, types, bodies, rfl, first, second, third⟩
    exact ⟨_, _, rfl, ⟨head, types, rfl, first, second⟩, bodies, rfl, third⟩

/-- What the part of a file for one of its services gives: the head without what is there for types,
and the code for the service. -/
theorem gives_part {part : Scope} {service : Stub.Service} {head body : List Nat}
    (found : part.lookup "file" = some (file.forService service).view)
    (loops : ∀ node ∈ s.types, isTypeLoop node = true)
    (own : allRead serviceReads s.service = true) (reads : allRead headReads s.plainHead = true)
    (agree : Agree headReads names part) (above : Template.Gives names s.plainHead head)
    (below : Template.Gives [("service", service.view)] s.service body) :
    Template.Gives part s.whole (head ++ body) := by
  have bare : NoTypes (file.forService service) := ⟨rfl, rfl⟩
  have heading := (Gives.congr agree reads).mp above
  rw [gives_plainHead found bare, gives_opened found (List.cons_ne_nil _ _)] at heading
  refine (gives_whole found own).mpr ⟨head, [], [body], by simp, heading, ?_, .cons below .nil⟩
  exact (gives_types found bare loops).mpr rfl

end

end Sections

/-! ### What is certain of a line -/

/-- Whether there is something on a line for certain. -/
def isFilled (parts : List (Part Empty)) : Bool :=
  parts.any fun
    | .char c => !isBlank c
    | _ => false

/-- Whether a line is certain to begin with a word and to have something behind it. -/
def begins : List Char → List (Part Empty) → Bool
  | [], .char d :: _ => !isBlank d
  | c :: word, .char d :: parts => c == d && begins word parts
  | _, _ => false

/-- Whether a line is certain not to begin with a word. -/
def differs : List Char → List (Part Empty) → Bool
  | _ :: _, [] => true
  | c :: word, .char d :: parts => c != d || differs word parts
  | _, _ => false

theorem filled_of_isFilled {parts : List (Part Empty)} {line : List Char}
    (checked : isFilled parts = true) (fits : Sheet.Fits parts line) : Layout.Filled line := by
  obtain ⟨part, member, dark⟩ := List.any_eq_true.mp checked
  cases part with
  | char c =>
    obtain ⟨before, after, rfl⟩ := List.append_of_mem member
    obtain ⟨front, rest, rfl, -, later⟩ := Realizes.split fits
    have visible : isBlank c = false := by simpa using dark
    cases later with
    | @char _ _ tail _ _ =>
      have inside : c ∈ front ++ c :: tail := List.mem_append_right _ List.mem_cons_self
      exact Layout.filled_of_mem inside visible
  | slot s => exact s.elim
  | other => cases dark

theorem split_of_begins {word : List Char} {parts : List (Part Empty)} {line : List Char}
    (checked : begins word parts = true) (fits : Sheet.Fits parts line) :
    ∃ d rest, line = word ++ d :: rest ∧ isBlank d = false := by
  induction word, parts using begins.induct generalizing line with
  | case1 d parts =>
    cases fits with
    | char _ later => exact ⟨d, _, rfl, by simpa [begins] using checked⟩
  | case2 c word d parts ih =>
    obtain ⟨same, later⟩ := Bool.and_eq_true_iff.mp checked
    obtain rfl := beq_iff_eq.mp same
    cases fits with
    | char _ fits =>
      obtain ⟨e, rest, rfl, visible⟩ := ih later fits
      exact ⟨e, rest, rfl, visible⟩
  | case3 word parts start next =>
    rw [begins.eq_3 word parts start next] at checked
    cases checked

/-- A line that is certain to begin with a word still does so without blanks at its end. -/
theorem prefix_of_begins {word : List Char} {parts : List (Part Empty)} {line : List Char}
    (checked : begins word parts = true) (fits : Sheet.Fits parts line) : word <+: trimEnd line := by
  obtain ⟨d, rest, rfl, visible⟩ := split_of_begins checked fits
  have kept : trimEnd (d :: rest) ≠ [] := Layout.filled_of_mem List.mem_cons_self visible
  rw [Text.trimEnd_append, if_neg kept]
  exact List.prefix_append _ _

theorem not_prefix_of_differs {word : List Char} {parts : List (Part Empty)} {line : List Char}
    (checked : differs word parts = true) (fits : Sheet.Fits parts line) : ¬ word <+: line := by
  induction word, parts using differs.induct generalizing line with
  | case1 c word =>
    cases fits
    simp
  | case2 c word d parts ih =>
    cases fits with
    | char _ fits =>
      rw [List.cons_prefix_cons]
      rintro ⟨rfl, later⟩
      rcases Bool.or_eq_true_iff.mp checked with other | rest
      · simp at other
      · exact ih rest fits later
  | case3 word parts none next =>
    rw [differs.eq_3 word parts none next] at checked
    cases checked

theorem prefix_trimEnd (line : List Char) : trimEnd line <+: line := by
  obtain ⟨blanks, cut, -⟩ := Text.trimEnd_append_blanks line
  exact ⟨blanks, cut.symm⟩

/-- What the lines with imports begin with. -/
def importWord : List Char := "import ".toList

def isImport (line : List Char) : Bool := importWord.isPrefixOf line

/-! ### What is certain of a section -/

/-- Whether the lines of parts of a template pass a check. -/
def sheetPasses (shapes : Shapes) (nodes : List Template.Node) (check : Sheet → Bool) : Bool :=
  match sheetAll? shapes [] nodes with
  | some (s, []) => check s
  | _ => false

/-- Whether there are lines for certain, with something on the first and on the last of them. -/
def Sheet.isBlock (s : Sheet) : Bool := s.starts isFilled false && s.ends isFilled false

/-- Whether the last line is an import for certain. -/
def Sheet.endsInImport (s : Sheet) : Bool := s.ends (begins importWord) false

/-- Whether there are lines for certain, with something on the last of them, and none is an import. -/
def Sheet.isBody (s : Sheet) : Bool := s.ends isFilled false && s.all (differs importWord)

/-- What is known of the lines that parts of a template give. -/
theorem lines_of_sheetPasses {shapes : Shapes} {scope : Scope} {nodes : List Template.Node}
    {check : Sheet → Bool} {codes : List Nat} (passes : sheetPasses shapes nodes check = true)
    (fit : shapes.Fit OneLine scope) (routes : RoutesOneLine scope)
    (given : Template.Gives scope nodes codes) :
    ∃ sheet ls, check sheet = true ∧ Sheet.Allows sheet ls ∧ codes.map Char.ofNat = unlines ls := by
  unfold sheetPasses at passes
  split at passes
  case h_1 s made =>
    obtain ⟨text, done, rfl⟩ := given
    obtain ⟨ls, allows, written⟩ := (sheetAll_covers nodes fit routes made done).lines
    exact ⟨s, ls, passes, allows, written⟩
  case h_2 => cases passes

/-- Lines that end in an import. -/
structure Header (ls : List (List Char)) : Prop extends Block ls where
  last : ∀ l ∈ (neat ls).getLast?, isImport l = true

/-- Lines without imports that can be put behind others. -/
structure Body (ls : List (List Char)) : Prop where
  whole : ∀ l ∈ ls, '\n' ∉ l
  closed : Closed ls
  code : ∀ l ∈ neat ls, isImport l = false

namespace Sheet

variable {s : Sheet} {ls : List (List Char)}

theorem Allows.closed {before : Bool} (allows : s.Allows ls) (checked : s.ends isFilled before = true) :
    Closed ls :=
  (last_of_ends (fun _ _ => filled_of_isFilled) allows checked).1

theorem Allows.block (allows : s.Allows ls) (checked : s.isBlock = true) : Block ls := by
  obtain ⟨starts, ends⟩ := Bool.and_eq_true_iff.mp checked
  obtain ⟨start, some⟩ := head_of_starts (fun _ _ => filled_of_isFilled) allows starts
  exact {
    whole := allows.oneLine
    some := fun none => Bool.false_ne_true (some none)
    start
    closed := allows.closed ends }

theorem Allows.header (allows : s.Allows ls)
    (checked : (s.isBlock && s.endsInImport) = true) : Header ls where
  toBlock := allows.block (Bool.and_eq_true_iff.mp checked).1
  last := by
    obtain ⟨block, imports⟩ := Bool.and_eq_true_iff.mp checked
    intro line last
    rw [Layout.getLast?_neat (allows.block block).closed] at last
    obtain ⟨l, ends, rfl⟩ := Option.map_eq_some_iff.mp last
    have word := (last_of_ends (fun _ _ => prefix_of_begins) allows imports).1 l ends
    exact List.isPrefixOf_iff_prefix.mpr word

theorem Allows.body (allows : s.Allows ls) (checked : s.isBody = true) : Body ls := by
  obtain ⟨ends, others⟩ := Bool.and_eq_true_iff.mp checked
  refine ⟨allows.oneLine, allows.closed ends, fun line member => ?_⟩
  obtain ⟨l, listed, rfl⟩ := Layout.mem_of_mem_neat member
  have other := forall_of_all (fun _ _ => not_prefix_of_differs) allows others l listed
  rw [isImport, Bool.eq_false_iff, ne_eq, List.isPrefixOf_iff_prefix]
  exact fun word => other (word.trans (prefix_trimEnd l))

end Sheet

/-- The layout of a header with a body behind it can be taken apart again. -/
theorem Header.cutBehind_tidy {hs ms : List (List Char)} (header : Header hs) (body : Body ms) :
    Layout.tidy (unlines (hs ++ ms)) = unlines (neat hs) ++ unlines (neat ms) ∧
      Layout.cutBehind isImport (Layout.tidy (unlines (hs ++ ms))) =
        (unlines (neat hs), unlines (neat ms)) := by
  have laid := header.tidy_append body.whole body.closed
  refine ⟨laid, ?_⟩
  have whole : ∀ l ∈ neat hs ++ neat ms, '\n' ∉ l := List.forall_mem_append.mpr
    ⟨Layout.not_mem_of_mem_neat header.whole, Layout.not_mem_of_mem_neat body.whole⟩
  rw [laid, ← Layout.unlines_append]
  exact Layout.cutBehind_unlines whole header.last body.code rfl

/-- The layout of a block with closed lines and bodies behind it. -/
theorem tidy_bodies {hs ts : List (List Char)} {bodies : List (List (List Char))} (block : Block hs)
    (whole : ∀ l ∈ ts, '\n' ∉ l) (closed : Closed ts) (each : ∀ b ∈ bodies, Body b) :
    Layout.tidy (unlines (hs ++ ts ++ bodies.flatten)) =
      unlines (neat hs) ++ unlines (neat ts) ++ (bodies.map (unlines ∘ neat)).flatten := by
  have ends : ∀ b ∈ bodies, Closed b := fun b member => (each b member).closed
  have inside : ∀ l ∈ ts ++ bodies.flatten, '\n' ∉ l := by
    refine List.forall_mem_append.mpr ⟨whole, fun l member => ?_⟩
    obtain ⟨b, listed, own⟩ := List.mem_flatten.mp member
    exact (each b listed).whole l own
  have last : Closed bodies.flatten := Layout.closed_flatten ends
  rw [List.append_assoc, block.tidy_append inside (closed.append last), Layout.neat_append closed,
    Layout.neat_flatten ends, Layout.unlines_append, Layout.unlines_flatten, List.map_map,
    List.append_assoc]

/-! ### What is certain of the templates -/

def serviceShapes : Shapes := [("service", Stub.serviceShape)]

/-- Whether all that the split of generated code rests on is certain of the sections. -/
def Sections.fits (shapes : Shapes) (s : Sections) : Bool :=
  allRead Sections.headReads s.plainHead && allRead Sections.serviceReads s.service &&
    sheetPasses shapes s.opened Sheet.isBlock &&
    sheetPasses shapes s.plainHead (fun sheet => sheet.isBlock && sheet.endsInImport) &&
    sheetPasses shapes s.types (fun sheet => sheet.ends isFilled true) &&
    sheetPasses serviceShapes s.service Sheet.isBody

/-- Whether a text is a template with sections. -/
def hasSections (shapes : Shapes) (text : List Char) : Bool :=
  match parse text with
  | .ok nodes => (Sections.ofNodes? nodes).any (·.fits shapes)
  | .error _ => false

theorem sections_of_hasSections {shapes : Shapes} {text : List Char} {nodes : List Template.Node}
    (checked : hasSections shapes text = true) (parsed : parse text = .ok nodes) :
    ∃ s : Sections, nodes = s.whole ∧ (∀ node ∈ s.types, Sections.isTypeLoop node = true) ∧
      s.fits shapes = true := by
  simp only [hasSections, parsed, Option.any_eq_true] at checked
  obtain ⟨s, found, fits⟩ := checked
  obtain ⟨whole, loops⟩ := Sections.whole_of_ofNodes? found
  exact ⟨s, whole, loops, fits⟩

/-- What the sections of a file come to: the lines of its head, those that are left of it without types,
the lines of the types, and those for each service. -/
structure Sections.Written (s : Sections) (names : Scope) (file : Stub.File) (codes : List Nat)
    (head plainHead types : List (List Char)) (bodies : List (List (List Char))) : Prop where
  chars : codes.map Char.ofNat = unlines (head ++ types ++ bodies.flatten)
  block : Block head
  whole : ∀ l ∈ types, '\n' ∉ l
  closed : Closed types
  header : Header plainHead
  above : ∃ plain ⊆ codes, Template.Gives names s.plainHead plain ∧
    plain.map Char.ofNat = unlines plainHead
  below : List.Forall₂ (fun service ls => Body ls ∧ ∃ body ⊆ codes,
    Template.Gives [("service", service.view)] s.service body ∧ body.map Char.ofNat = unlines ls)
    file.services bodies
  bare : Sections.NoTypes file → plainHead = head ∧ types = []

/-- A template with sections gives them for a file with services. -/
theorem Sections.exists_written {shapes : Shapes} {s : Sections} {names : Scope} {file : Stub.File}
    {codes : List Nat} (fits : s.fits shapes = true)
    (loops : ∀ node ∈ s.types, isTypeLoop node = true) (fit : shapes.Fit OneLine names)
    (routes : RoutesOneLine names) (found : names.lookup "file" = some file.view)
    (served : file.services ≠ []) (services : ∀ service ∈ file.services,
      serviceShapes.Fit OneLine [("service", service.view)] ∧
        RoutesOneLine [("service", service.view)])
    (given : Template.Gives names s.whole codes) :
    ∃ head plainHead types bodies, s.Written names file codes head plainHead types bodies := by
  simp only [Sections.fits, Bool.and_eq_true] at fits
  obtain ⟨⟨⟨⟨⟨-, serviceReads⟩, openedFits⟩, plainFits⟩, typesFit⟩, serviceFits⟩ := fits
  obtain ⟨head, types, bodies, rfl, heading, typing, coding⟩ := (gives_whole found serviceReads).mp given
  have opening := (gives_opened found served).mpr heading
  obtain ⟨plain, above, kept⟩ := opening.filter (!isTypeChoice ·)
  obtain ⟨_, hs, isBlock, allows, headLines⟩ := lines_of_sheetPasses openedFits fit routes opening
  have block := allows.block isBlock
  obtain ⟨_, ps, isHeader, allows, plainLines⟩ := lines_of_sheetPasses plainFits fit routes above
  have header : Header ps := allows.header isHeader
  obtain ⟨_, ts, isClosed, allows, typeLines⟩ := lines_of_sheetPasses typesFit fit routes typing
  obtain ⟨blocks, written, coded⟩ := Outcome.forall₂_follow (P := fun body ls =>
      Body ls ∧ body.map Char.ofNat = unlines ls) coding fun service member body given => by
    obtain ⟨fit, routes⟩ := services service member
    obtain ⟨_, ls, isBody, allows, lines⟩ := lines_of_sheetPasses serviceFits fit routes given
    exact ⟨ls, allows.body isBody, lines⟩
  have bodyLines : bodies.flatten.map Char.ofNat = unlines blocks.flatten := by
    clear given coding coded
    induction written with
    | nil => rfl
    | cons here _ ih => simp only [List.flatten_cons, List.map_append, here.2, ih, Layout.unlines_append]
  refine ⟨hs, ps, ts, blocks, ?_, block, allows.oneLine, allows.closed isClosed, header,
    ⟨plain, ?_, above, plainLines⟩, coded.imp fun service ls found => ?_, fun bare => ?_⟩
  · rw [List.map_append, List.map_append, headLines, typeLines, bodyLines, Layout.unlines_append,
      Layout.unlines_append]
  · intro code member
    exact List.mem_append_left _ (List.mem_append_left _ (kept.subset member))
  · obtain ⟨body, listed, gives, isBody, lines⟩ := found
    refine ⟨isBody, body, fun code member => ?_, gives, lines⟩
    exact List.mem_append_right _ (List.mem_flatten.mpr ⟨body, listed, member⟩)
  · have same : plain = head := ((gives_plainHead found bare).mp above).unique opening
    have none : types = [] := (gives_types found bare loops).mp typing
    have empty : unlines ts = unlines [] := by rw [← typeLines, none]; rfl
    refine ⟨Layout.unlines_inj header.whole block.whole ?_, ?_⟩
    · rw [← plainLines, ← headLines, same]
    · exact Layout.unlines_inj allows.oneLine (List.forall_mem_nil _) empty

-- The templates are split into the characters of their lines, as where their shapes are checked.
set_option maxRecDepth 100000 in
theorem kotlin_hasSections :
    hasSections Target.kotlin.shapes Target.kotlin.template.toList = true := by
  have text : Target.kotlin.template.toList = _ := Target.toList_ofLines _
  rw [text]
  simp only [List.flatMap_cons, List.flatMap_nil]
  repeat rw [String.toList_ofList]
  decide +kernel

set_option maxRecDepth 100000 in
theorem swift_hasSections : hasSections Target.swift.shapes Target.swift.template.toList = true := by
  have text : Target.swift.template.toList = _ := Target.toList_ofLines _
  rw [text]
  simp only [List.flatMap_cons, List.flatMap_nil]
  repeat rw [String.toList_ofList]
  decide +kernel

set_option maxRecDepth 100000 in
theorem dart_hasSections : hasSections Target.dart.shapes Target.dart.template.toList = true := by
  have text : Target.dart.template.toList = _ := Target.toList_ofLines _
  rw [text]
  simp only [List.flatMap_cons, List.flatMap_nil]
  repeat rw [String.toList_ofList]
  decide +kernel

/-- The templates of the languages have sections. -/
theorem hasSections_builtin {target : Target} (builtin : target ∈ Target.builtins) :
    hasSections target.shapes target.template.toList = true := by
  simp only [Target.builtins, List.mem_cons, List.not_mem_nil, or_false] at builtin
  rcases builtin with rfl | rfl | rfl
  · exact kotlin_hasSections
  · exact swift_hasSections
  · exact dart_hasSections

end Code

end RpcBindings
