import RpcBindings.Proofs.Stub.OneLine
import RpcBindings.Proofs.Template.Reads
import RpcBindings.Proofs.Text.Blocks

/-! The lines that a template can give. A sheet holds what is known of each line before the template
is filled in, which lines come one after the other, and where there is a choice or a loop; how often
a loop runs and what is chosen is left open. What is certain of the first line, of the last one or
of all of them can be computed from the sheet. -/
namespace RpcBindings

open Outcome Template
open Text (CodePoints OneLine isBlank)
open Layout (unlines)

namespace Template

/-- What a service calls to make the route of a method. -/
def routeMember : Expr := .member (.var "service") "route"

/-- Whether the routes that a service makes stay on their line, if there is a service at hand. -/
def RoutesOneLine (scope : Scope) : Prop :=
  ∀ name stem owner, routeMember.eval scope = .ok (.method name (.routing stem) owner) → OneLine stem

/-- A loop over other things leaves the service at hand. -/
theorem RoutesOneLine.inRound {scope : Scope} (routes : RoutesOneLine scope) {name : String}
    (other : name ≠ "service") (all : List Value) (index : Nat) (item : Value) :
    RoutesOneLine (loopScope scope name all index item) := by
  have same : routeMember.eval (loopScope scope name all index item) = routeMember.eval scope :=
    eval_loopScope (r := .member "service" "route") other.symm (by decide) scope all index item
  intro key stem owner found
  exact routes key stem owner (same ▸ found)

/-- Whether what an expression is printed as is certain to stay on its line: a text that is named or
the route of something that is. -/
def Expr.isOneLine (shapes : Shapes) (e : Expr) : Bool :=
  match e, e.shape? shapes with
  | .call (.member (.var "service") "route") argument, some .leaf => argument.isPath
  | e, some .leaf => e.isPath
  | _, _ => false

theorem Expr.shown_oneLine {shapes : Shapes} {scope : Scope} (fit : shapes.Fit OneLine scope)
    (routes : RoutesOneLine scope) {e : Expr} {v : Value} (certain : e.isOneLine shapes = true)
    (evaluated : e.eval scope = .ok v) : OneLine (shown v) := by
  unfold isOneLine at certain
  split at certain
  case h_1 argument typed =>
    rw [shape?] at typed
    split at typed
    case h_1 members callable passed =>
      split at typed
      case h_1 named =>
        obtain ⟨f, calling, name, stem, owner, rfl⟩ :=
          eval_fits_of_isPath fit (e := .member (.var "service") "route") rfl callable
        obtain ⟨w, passing, fits⟩ := eval_fits_of_isPath fit certain passed
        obtain ⟨text, holds, -, line⟩ := membersFit_lookup fits named
        have called : (Expr.call (.member (.var "service") "route") argument).eval scope =
            .ok (.text (.string stem ++ text.asText)) := by
          rw [eval, calling, ok_bind, passing, ok_bind]
          simp [applyTo, holds]
        cases called.symm.trans evaluated
        exact (routes name stem owner calling).append line
      case h_2 => cases typed
    case h_2 => cases typed
  case h_2 typed =>
    obtain ⟨w, found, fits⟩ := eval_fits_of_isPath fit certain typed
    cases found.symm.trans evaluated
    exact fits.1
  case h_3 => cases certain

end Template

namespace Code

/-- Lines of which the parts are known, in the choices and loops that they stand in. -/
inductive Sheet where
  | nothing
  | line (parts : List (Part Empty)) (next : Sheet)
  | either (yes no next : Sheet)
  | many (body next : Sheet)

namespace Sheet

/-- Whether a text is made of the parts, without line feeds where they are unknown. -/
def Fits (parts : List (Part Empty)) (line : List Char) : Prop :=
  Realizes (· ≠ '\n') Empty.elim parts line

theorem Fits.oneLine {parts : List (Part Empty)} {line : List Char} (fits : Fits parts line) :
    '\n' ∉ line :=
  Realizes.oneLine fits fun s => s.elim

/-- Whether lines can come from a sheet. -/
def Allows : Sheet → List (List Char) → Prop
  | nothing, ls => ls = []
  | line parts next, ls => ∃ l later, ls = l :: later ∧ Fits parts l ∧ next.Allows later
  | either yes no next, ls =>
    ∃ here later, ls = here ++ later ∧ (yes.Allows here ∨ no.Allows here) ∧ next.Allows later
  | many body next, ls =>
    ∃ (rounds : List (List (List Char))) (later : List (List Char)), ls = rounds.flatten ++ later ∧
      (∀ r ∈ rounds, body.Allows r) ∧ next.Allows later

def append : Sheet → Sheet → Sheet
  | nothing, s => s
  | line parts next, s => line parts (next.append s)
  | either yes no next, s => either yes no (next.append s)
  | many body next, s => many body (next.append s)

theorem Allows.append {s t : Sheet} {ls ms : List (List Char)} (first : s.Allows ls)
    (second : t.Allows ms) : (s.append t).Allows (ls ++ ms) := by
  induction s generalizing ls with
  | nothing =>
    obtain rfl : ls = [] := first
    exact second
  | line parts next ih =>
    obtain ⟨l, later, rfl, fits, more⟩ := first
    exact ⟨l, later ++ ms, rfl, fits, ih more⟩
  | either yes no next _ _ ih =>
    obtain ⟨here, later, rfl, taken, more⟩ := first
    exact ⟨here, later ++ ms, List.append_assoc .., taken, ih more⟩
  | many body next _ ih =>
    obtain ⟨rounds, later, rfl, each, more⟩ := first
    exact ⟨rounds, later ++ ms, List.append_assoc .., each, ih more⟩

theorem Allows.oneLine {s : Sheet} {ls : List (List Char)} (allows : s.Allows ls) :
    ∀ l ∈ ls, '\n' ∉ l := by
  induction s generalizing ls with
  | nothing =>
    obtain rfl : ls = [] := allows
    exact nofun
  | line parts next ih =>
    obtain ⟨l, later, rfl, fits, more⟩ := allows
    exact List.forall_mem_cons.mpr ⟨fits.oneLine, ih more⟩
  | either yes no next first second ih =>
    obtain ⟨here, later, rfl, taken, more⟩ := allows
    refine List.forall_mem_append.mpr ⟨?_, ih more⟩
    rcases taken with taken | taken
    · exact first taken
    · exact second taken
  | many body next inside ih =>
    obtain ⟨rounds, later, rfl, each, more⟩ := allows
    refine List.forall_mem_append.mpr ⟨fun l member => ?_, ih more⟩
    obtain ⟨r, round, listed⟩ := List.mem_flatten.mp member
    exact inside (each r round) l listed

/-! ### What is certain of the lines -/

variable (test : List (Part Empty) → Bool)

/-- Whether all lines pass a test. -/
def all : Sheet → Bool
  | nothing => true
  | line parts next => test parts && next.all
  | either yes no next => yes.all && no.all && next.all
  | many body next => body.all && next.all

/-- Whether the first line passes a test, given what is to be said if there is none. -/
def starts (otherwise : Bool) : Sheet → Bool
  | nothing => otherwise
  | line parts _ => test parts
  | either yes no next =>
    let rest := next.starts otherwise
    yes.starts rest && no.starts rest
  | many body next =>
    let rest := next.starts otherwise
    rest && body.starts rest

/-- Whether the last line passes a test, given whether the one before all of them does. -/
def ends (before : Bool) : Sheet → Bool
  | nothing => before
  | line parts next => next.ends (test parts)
  | either yes no next => next.ends (yes.ends before && no.ends before)
  | many body next => next.ends (before && body.ends before)

section

variable {test : List (Part Empty) → Bool} {good : List Char → Prop} {s : Sheet}
  {ls : List (List Char)}

theorem forall_of_all (sound : ∀ parts l, test parts = true → Fits parts l → good l)
    (allows : s.Allows ls) (checked : s.all test = true) : ∀ l ∈ ls, good l := by
  induction s generalizing ls with
  | nothing =>
    obtain rfl : ls = [] := allows
    exact nofun
  | line parts next ih =>
    obtain ⟨l, later, rfl, fits, more⟩ := allows
    obtain ⟨here, rest⟩ := Bool.and_eq_true_iff.mp checked
    exact List.forall_mem_cons.mpr ⟨sound parts l here fits, ih more rest⟩
  | either yes no next first second ih =>
    obtain ⟨here, later, rfl, taken, more⟩ := allows
    simp only [all, Bool.and_eq_true] at checked
    obtain ⟨⟨yes, no⟩, rest⟩ := checked
    refine List.forall_mem_append.mpr ⟨?_, ih more rest⟩
    rcases taken with taken | taken
    · exact first taken yes
    · exact second taken no
  | many body next inside ih =>
    obtain ⟨rounds, later, rfl, each, more⟩ := allows
    obtain ⟨body, rest⟩ := Bool.and_eq_true_iff.mp checked
    refine List.forall_mem_append.mpr ⟨fun l member => ?_, ih more rest⟩
    obtain ⟨r, round, listed⟩ := List.mem_flatten.mp member
    exact inside (each r round) body l listed

theorem head_of_starts (sound : ∀ parts l, test parts = true → Fits parts l → good l)
    {otherwise : Bool} (allows : s.Allows ls) (checked : s.starts test otherwise = true) :
    (∀ l ∈ ls.head?, good l) ∧ (ls = [] → otherwise = true) := by
  induction s generalizing ls otherwise with
  | nothing =>
    obtain rfl : ls = [] := allows
    exact ⟨nofun, fun _ => checked⟩
  | line parts next ih =>
    obtain ⟨l, later, rfl, fits, more⟩ := allows
    refine ⟨fun first member => ?_, nofun⟩
    cases member
    exact sound parts l checked fits
  | either yes no next first second ih =>
    obtain ⟨here, later, rfl, taken, more⟩ := allows
    obtain ⟨yes, no⟩ := Bool.and_eq_true_iff.mp checked
    have inside : (∀ l ∈ here.head?, good l) ∧ (here = [] → next.starts test otherwise = true) := by
      rcases taken with taken | taken
      · exact first taken yes
      · exact second taken no
    cases here with
    | nil => exact ih more (inside.2 rfl)
    | cons l here => exact ⟨inside.1, nofun⟩
  | many body next inside ih =>
    obtain ⟨rounds, later, rfl, each, more⟩ := allows
    obtain ⟨rest, first⟩ := Bool.and_eq_true_iff.mp checked
    induction rounds with
    | nil => exact ih more rest
    | cons r rounds skip =>
      obtain ⟨here, others⟩ := List.forall_mem_cons.mp each
      cases r with
      | nil => exact skip others
      | cons l r => exact ⟨(inside here first).1, nofun⟩

theorem last_append {here later : List (List Char)} (last : ∀ l ∈ later.getLast?, good l)
    (none : later = [] → ∀ l ∈ here.getLast?, good l) : ∀ l ∈ (here ++ later).getLast?, good l := by
  cases later with
  | nil => simpa using none rfl
  | cons l later =>
    rw [List.getLast?_append_of_ne_nil _ (List.cons_ne_nil l later)]
    exact last

theorem last_of_ends (sound : ∀ parts l, test parts = true → Fits parts l → good l)
    {before : Bool} (allows : s.Allows ls) (checked : s.ends test before = true) :
    (∀ l ∈ ls.getLast?, good l) ∧ (ls = [] → before = true) := by
  induction s generalizing ls before with
  | nothing =>
    obtain rfl : ls = [] := allows
    exact ⟨nofun, fun _ => checked⟩
  | line parts next ih =>
    obtain ⟨l, later, rfl, fits, more⟩ := allows
    obtain ⟨last, none⟩ := ih more checked
    have here (empty : later = []) : ∀ final ∈ [l].getLast?, good final := by
      rintro final ⟨⟩
      exact sound parts l (none empty) fits
    exact ⟨last_append last here, nofun⟩
  | either yes no next first second ih =>
    obtain ⟨here, later, rfl, taken, more⟩ := allows
    obtain ⟨last, none⟩ := ih more checked
    have inside (empty : later = []) : (∀ l ∈ here.getLast?, good l) ∧ (here = [] → before = true) := by
      obtain ⟨one, other⟩ := Bool.and_eq_true_iff.mp (none empty)
      rcases taken with taken | taken
      · exact first taken one
      · exact second taken other
    refine ⟨last_append last fun empty => (inside empty).1, fun empty => ?_⟩
    obtain ⟨one, other⟩ := List.append_eq_nil_iff.mp empty
    exact (inside other).2 one
  | many body next inside ih =>
    obtain ⟨rounds, later, rfl, each, more⟩ := allows
    obtain ⟨last, none⟩ := ih more checked
    have round (empty : later = []) : ∀ l ∈ rounds.flatten.getLast?, good l := by
      obtain ⟨-, within⟩ := Bool.and_eq_true_iff.mp (none empty)
      clear none last more ih
      induction rounds with
      | nil => exact nofun
      | cons r rounds skip =>
        obtain ⟨here, others⟩ := List.forall_mem_cons.mp each
        exact last_append (skip others) fun _ => (inside here within).1
    refine ⟨last_append last round, fun empty => ?_⟩
    obtain ⟨-, other⟩ := List.append_eq_nil_iff.mp empty
    exact (Bool.and_eq_true_iff.mp (none other)).1

end

/-! ### The sheet of a template -/

/-- The sheet of a text; the line that it starts on has begun already. It and the one that the text
ends on are given from their ends. -/
def ofText (begun : List (Part Empty)) : List Char → Sheet × List (Part Empty)
  | [] => (nothing, begun)
  | c :: rest =>
    if c = '\n' then
      let (later, left) := ofText [] rest
      (line begun.reverse later, left)
    else ofText (.char c :: begun) rest

end Sheet

mutual

/-- The sheet of a part of a template. Choices and loops take up whole lines. -/
def sheet? (shapes : Shapes) (begun : List (Part Empty)) :
    Template.Node → Option (Sheet × List (Part Empty))
  | .text s => some (Sheet.ofText begun s)
  | .print e => if e.isOneLine shapes then some (.nothing, .other :: begun) else none
  | .choice _ yes no =>
    match begun, sheetAll? shapes [] yes, sheetAll? shapes [] no with
    | [], some (first, []), some (second, []) => some (.either first second .nothing, [])
    | _, _, _ => none
  | .loop name source body empty =>
    match begun, source.isPath && name != "service", source.shape? shapes,
      sheetAll? shapes [] empty with
    | [], true, some (.row item), some (skipped, []) =>
      match sheetAll? ((name, item) :: ("loop", .any) :: shapes) [] body with
      | some (inside, []) => some (.either (.many inside .nothing) skipped .nothing, [])
      | _ => none
    | _, _, _, _ => none

def sheetAll? (shapes : Shapes) (begun : List (Part Empty)) :
    List Template.Node → Option (Sheet × List (Part Empty))
  | [] => some (.nothing, begun)
  | node :: rest => do
    let (here, left) ← sheet? shapes begun node
    let (later, left) ← sheetAll? shapes left rest
    return (here.append later, left)

end

/-- Whether a text, behind the beginning of a line, gives lines that a sheet allows and the beginning
of one more. Both beginnings are known from their ends. -/
def Sheet.Covers (s : Sheet) (begun left : List (Part Empty)) (text : List Char) : Prop :=
  ∀ before, Sheet.Fits begun.reverse before → ∃ ls after, s.Allows ls ∧ Sheet.Fits left.reverse after ∧
    before ++ text = unlines ls ++ after

namespace Sheet

theorem Covers.append {s t : Sheet} {begun between left : List (Part Empty)} {text more : List Char}
    (here : s.Covers begun between text) (later : t.Covers between left more) :
    (s.append t).Covers begun left (text ++ more) := by
  intro before fits
  obtain ⟨ls, middle, allows, known, whole⟩ := here before fits
  obtain ⟨ms, after, allowed, ending, rest⟩ := later middle known
  refine ⟨ls ++ ms, after, allows.append allowed, ending, ?_⟩
  rw [← List.append_assoc, whole, List.append_assoc, rest, Layout.unlines_append, List.append_assoc]

theorem covers_part {begun : List (Part Empty)} {part : Part Empty} {text : List Char}
    (fits : Fits [part] text) : nothing.Covers begun (part :: begun) text := by
  intro before known
  refine ⟨[], before ++ text, rfl, ?_, rfl⟩
  rw [List.reverse_cons]
  exact Realizes.append known fits

theorem covers_ofText (begun : List (Part Empty)) (s : List Char) :
    (ofText begun s).1.Covers begun (ofText begun s).2 s := by
  induction s generalizing begun with
  | nil =>
    intro before fits
    exact ⟨[], before, rfl, fits, by simp⟩
  | cons c rest ih =>
    rw [ofText]
    split
    case isTrue feed =>
      subst feed
      intro before fits
      obtain ⟨ls, after, allows, known, whole⟩ := ih [] [] .nil
      refine ⟨before :: ls, after, ⟨before, ls, rfl, fits, allows⟩, known, ?_⟩
      rw [List.nil_append] at whole
      rw [Layout.unlines_cons, whole, List.append_assoc, List.cons_append]
    case isFalse inside =>
      have part : Fits [.char c] [c] := .char inside .nil
      exact (covers_part part).append (ih _)

/-- What takes up whole lines. -/
theorem Covers.lines {s : Sheet} {text : List Char} (covers : s.Covers [] [] text) :
    ∃ ls, s.Allows ls ∧ text = unlines ls := by
  obtain ⟨ls, after, allows, known, whole⟩ := covers [] .nil
  cases known
  exact ⟨ls, allows, by simpa using whole⟩

theorem covers_of_lines {s : Sheet} {text : List Char}
    (found : ∃ ls, s.Allows ls ∧ text = unlines ls) : s.Covers [] [] text := by
  obtain ⟨ls, allows, rfl⟩ := found
  intro before fits
  cases fits
  exact ⟨ls, [], allows, .nil, by simp⟩

theorem allows_either {yes no : Sheet} {ls : List (List Char)} :
    (either yes no nothing).Allows ls ↔ yes.Allows ls ∨ no.Allows ls := by
  constructor
  · rintro ⟨here, later, rfl, taken, rfl⟩
    simpa using taken
  · intro taken
    exact ⟨ls, [], (List.append_nil ls).symm, taken, rfl⟩

end Sheet

section

variable {scope : Scope}

/-- The rounds of a loop give lines one after the other. -/
theorem rounds_lines {s : Sheet} {body : Nat → Value → Except RenderError CodePoints}
    {all : List Value} (each : ∀ item ∈ all, ∀ index text, body index item = .ok text →
      ∃ ls, s.Allows ls ∧ text.chars = unlines ls)
    {index : Nat} {text : CodePoints} (done : rounds body index all = .ok text) :
    ∃ blocks : List (List (List Char)), (∀ ls ∈ blocks, s.Allows ls) ∧
      text.chars = unlines blocks.flatten := by
  induction all generalizing index text with
  | nil =>
    cases done
    exact ⟨[], nofun, by simp⟩
  | cons item rest ih =>
    simp only [rounds, bind_ok_iff, pure_ok, Except.ok.injEq] at done
    obtain ⟨front, first, back, second, rfl⟩ := done
    obtain ⟨here, others⟩ := List.forall_mem_cons.mp each
    obtain ⟨ls, allows, written⟩ := here index front first
    obtain ⟨blocks, allowed, more⟩ := ih others second
    refine ⟨ls :: blocks, List.forall_mem_cons.mpr ⟨allows, allowed⟩, ?_⟩
    rw [CodePoints.chars_append, written, more, List.flatten_cons, Layout.unlines_append]

mutual

theorem sheet_covers :
    ∀ (node : Template.Node) {shapes : Shapes} {scope : Scope} {begun left : List (Part Empty)}
      {s : Sheet} {text : CodePoints}, shapes.Fit OneLine scope → RoutesOneLine scope →
      sheet? shapes begun node = some (s, left) → node.render scope = .ok text →
      s.Covers begun left text.chars
  | .text chars, _, _, begun, _, _, _, _, _, made, rendered => by
    cases rendered
    rw [sheet?, Option.some.injEq] at made
    have covers := Sheet.covers_ofText begun chars
    rw [made] at covers
    rwa [CodePoints.chars_string, String.toList_ofList]
  | .print e, _, _, _, _, _, _, fit, routes, made, rendered => by
    obtain ⟨v, evaluated, done⟩ := bind_ok_iff.mp rendered
    cases done
    rw [sheet?] at made
    split at made
    case isTrue certain =>
      cases made
      have line := e.shown_oneLine fit routes certain evaluated
      have part : Sheet.Fits [.other] ((shown v).chars ++ []) :=
        .other (fun c member feed => line (feed ▸ member)) .nil
      rw [List.append_nil] at part
      exact Sheet.covers_part part
    case isFalse => cases made
  | .choice test yes no, _, scope, _, _, _, text, fit, routes, made, rendered => by
    obtain ⟨v, evaluated, done⟩ := bind_ok_iff.mp rendered
    unfold sheet? at made
    split at made
    case h_1 first second known other =>
      cases made
      refine Sheet.covers_of_lines ?_
      simp only [Sheet.allows_either]
      split at done
      · obtain ⟨ls, allows, written⟩ := (sheetAll_covers yes fit routes known done).lines
        exact ⟨ls, .inl allows, written⟩
      · obtain ⟨ls, allows, written⟩ := (sheetAll_covers no fit routes other done).lines
        exact ⟨ls, .inr allows, written⟩
    case h_2 => cases made
  | .loop name source body empty, shapes, scope, _, _, _, text, fit, routes, made, rendered => by
    obtain ⟨v, evaluated, done⟩ := bind_ok_iff.mp rendered
    obtain ⟨all, found, done⟩ := bind_ok_iff.mp done
    unfold sheet? at made
    split at made
    case h_1 item skipped path typed known =>
      split at made
      case h_1 inside within =>
        cases made
        obtain ⟨path, other⟩ := Bool.and_eq_true_iff.mp path
        obtain ⟨w, value, row, listed, each⟩ := Expr.eval_fits_of_isPath fit path typed
        cases evaluated.symm.trans value
        cases found.symm.trans listed
        refine Sheet.covers_of_lines ?_
        simp only [Sheet.allows_either]
        split at done
        · obtain ⟨ls, allows, written⟩ := (sheetAll_covers empty fit routes known done).lines
          exact ⟨ls, .inr allows, written⟩
        · have round : ∀ w ∈ all, ∀ index text,
              renderAll (loopScope scope name all index w) body = .ok text →
              ∃ ls, inside.Allows ls ∧ text.chars = unlines ls := by
            intro w member index text here
            have round : Shape.any.Fits OneLine (loopRecord all index) := trivial
            have names : Shapes.Fit OneLine ((name, item) :: ("loop", .any) :: shapes)
                (loopScope scope name all index w) :=
              (fit.cons round "loop").cons (each w member) name
            have routes := routes.inRound (bne_iff_ne.mp other) all index w
            exact (sheetAll_covers body names routes within here).lines
          obtain ⟨blocks, allowed, written⟩ := rounds_lines round done
          exact ⟨blocks.flatten, .inl ⟨blocks, [], (List.append_nil _).symm, allowed, rfl⟩, written⟩
      case h_2 => cases made
    case h_2 => cases made

/-- What a template gives are lines that its sheet allows. -/
theorem sheetAll_covers :
    ∀ (nodes : List Template.Node) {shapes : Shapes} {scope : Scope}
      {begun left : List (Part Empty)} {s : Sheet} {text : CodePoints},
      shapes.Fit OneLine scope → RoutesOneLine scope → sheetAll? shapes begun nodes = some (s, left) →
      renderAll scope nodes = .ok text → s.Covers begun left text.chars
  | [], _, _, begun, _, _, _, _, _, made, rendered => by
    cases rendered
    rw [sheetAll?, Option.some.injEq] at made
    cases made
    intro before fits
    exact ⟨[], before, rfl, fits, by simp⟩
  | node :: rest, _, _, _, _, _, _, fit, routes, made, rendered => by
    simp only [renderAll, bind_ok_iff, pure_ok, Except.ok.injEq] at rendered
    obtain ⟨front, first, back, second, rfl⟩ := rendered
    rw [sheetAll?] at made
    obtain ⟨⟨here, between⟩, known, made⟩ := Option.bind_eq_some_iff.mp made
    obtain ⟨⟨later, left⟩, other, made⟩ := Option.bind_eq_some_iff.mp made
    cases made
    rw [CodePoints.chars_append]
    exact (sheet_covers node fit routes known first).append
      (sheetAll_covers rest fit routes other second)

end

end

end Code

end RpcBindings
