import RpcBindings.Proofs.Code.Recognition
import RpcBindings.Proofs.Template.Shape

/-! What a template tells before it is filled in. Its lines are read with the phrases of a language;
which words they hold, which branches are taken and how often loops run is left open. The outline is
what remains, and a filled-in text tells what the outline of its template does. -/
namespace RpcBindings

open Outcome Template Text

/-- The characters of a text, any one in place of a surrogate. -/
def Text.CodePoints.chars (s : CodePoints) : List Char := s.codes.map Char.ofNat

@[simp] theorem Text.CodePoints.chars_string (s : String) :
    (CodePoints.string s).chars = s.toList := by
  have same : Char.ofNat ∘ Char.toNat = id := funext fun c => Char.ofNat_toNat c
  simp [chars, codes, same]

@[simp] theorem Text.CodePoints.chars_append (s t : CodePoints) :
    (s ++ t).chars = s.chars ++ t.chars := by
  simp [chars]

def Text.OneLine (s : CodePoints) : Prop := '\n' ∉ s.chars

namespace Template

/-- Whether an expression is a name or a member of a member of one. -/
def Expr.isPath : Expr → Bool
  | var _ => true
  | member object _ => object.isPath
  | _ => false

theorem Expr.eval_fits_of_isPath {good : CodePoints → Prop} {shapes : Shapes} {scope : Scope}
    (fit : shapes.Fit good scope) {e : Expr} {shape : Shape} (path : e.isPath = true)
    (typed : e.shape? shapes = some shape) : ∃ v, e.eval scope = .ok v ∧ shape.Fits good v := by
  induction e generalizing shape with
  | var name =>
    obtain ⟨v, found, fits⟩ := fit name shape typed
    exact ⟨v, by simp [eval, found], fits⟩
  | member object name ih =>
    rw [shape?] at typed
    split at typed
    case h_1 members inner =>
      obtain ⟨v, evaluated, fits⟩ := ih path inner
      obtain ⟨w, holds, fits⟩ := membersFit_lookup fits typed
      exact ⟨w, by simp [eval, evaluated, attributeOf_held holds], fits⟩
    case h_2 => cases typed
  | _ => cases path

end Template

namespace Code

variable {ρ σ : Type}

/-- How words are written in a template: the expressions that stand for slots. -/
structure Wording (σ : Type) where
  expr : σ → Expr
  slot? : Expr → Option σ
  expr_of_slot? : ∀ {e s}, slot? e = some s → e = expr s

/-- The word that fills a slot, given the names that the template is filled in with. -/
def Wording.word (w : Wording σ) (scope : Scope) (s : σ) : List Char :=
  match (w.expr s).eval scope with
  | .ok v => (shown v).chars
  | .error _ => []

theorem Wording.word_of_eval {w : Wording σ} {scope : Scope} {s : σ} {t : CodePoints}
    (evaluated : (w.expr s).eval scope = .ok (.text t)) : w.word scope s = t.chars := by
  simp [word, evaluated, shown, Value.asText]

/-- What lines with slots in them tell, in the branches and loops that they stand in, and the slots
that they have besides. A choice asks for a member of a named object and a loop goes through one. -/
inductive Outline (ρ σ : Type) where
  | nothing
  | word (slot : σ) (next : Outline ρ σ)
  | fact (told : Fact ρ σ) (next : Outline ρ σ)
  | choice (object member : String) (yes no next : Outline ρ σ)
  | loop (name object member : String) (body next : Outline ρ σ)
  deriving DecidableEq

namespace Outline

/-- Whether an outline tells some facts, given the names that its template is filled in with: all
slots are filled by words, and each part of the outline tells its share. -/
def Tells (w : Wording σ) : Outline ρ σ → Scope → List (Fact ρ (List Char)) → Prop
  | nothing, _, facts => facts = []
  | word slot next, scope, facts => IsWord (w.word scope slot) ∧ next.Tells w scope facts
  | fact told next, scope, facts =>
    (∀ s ∈ told.words, IsWord (w.word scope s)) ∧
      ∃ later, facts = told.map (w.word scope) :: later ∧ next.Tells w scope later
  | choice object member yes no next, scope, facts =>
    ∃ v here later, (Expr.member (.var object) member).eval scope = .ok v ∧ facts = here ++ later ∧
      (v.truthy = true → yes.Tells w scope here) ∧ (v.truthy = false → no.Tells w scope here) ∧
      next.Tells w scope later
  | loop name object member body next, scope, facts =>
    ∃ v all parts later, (Expr.member (.var object) member).eval scope = .ok v ∧
      items v = .ok all ∧ facts = parts.flatten ++ later ∧
      List.Forall₂
        (fun item here => ∀ index, body.Tells w (loopScope scope name all index item) here)
        all parts ∧
      next.Tells w scope later

variable {w : Wording σ} {scope : Scope} {facts : List (Fact ρ (List Char))}

/-- Facts before what an outline tells. -/
def tell (told : List (Fact ρ σ)) (next : Outline ρ σ) : Outline ρ σ := told.foldr fact next

theorem tells_tell {told : List (Fact ρ σ)} {next : Outline ρ σ} :
    (tell told next).Tells w scope facts ↔
      (∀ fact ∈ told, ∀ s ∈ fact.words, IsWord (w.word scope s)) ∧
        ∃ later, facts = told.map (Fact.map (w.word scope)) ++ later ∧ next.Tells w scope later := by
  induction told generalizing facts with
  | nil =>
    constructor
    · exact fun tells => ⟨nofun, facts, rfl, tells⟩
    · rintro ⟨-, later, rfl, tells⟩
      exact tells
  | cons first told ih =>
    have step : (tell (first :: told) next).Tells w scope facts ↔
        (∀ s ∈ first.words, IsWord (w.word scope s)) ∧ ∃ rest,
          facts = first.map (w.word scope) :: rest ∧ (tell told next).Tells w scope rest := Iff.rfl
    rw [step, List.forall_mem_cons]
    constructor
    · rintro ⟨words, rest, rfl, tells⟩
      obtain ⟨more, later, rfl, behind⟩ := ih.mp tells
      exact ⟨⟨words, more⟩, later, rfl, behind⟩
    · rintro ⟨⟨words, more⟩, later, rfl, tells⟩
      exact ⟨words, _, rfl, ih.mpr ⟨more, later, rfl, tells⟩⟩

/-- A loop tells what its rounds do, one after the other. -/
theorem tells_loop {α : Type} {view : α → Value} {all : List α}
    {told : α → List (Fact ρ (List Char))} {name object member : String}
    {body next : Outline ρ σ} {later : List (Fact ρ (List Char))}
    (found : (Expr.member (.var object) member).eval scope = .ok (.tuple (all.map view)))
    (rounds : ∀ x ∈ all, ∀ index,
      body.Tells w (loopScope scope name (all.map view) index (view x)) (told x))
    (tells : next.Tells w scope later) (whole : facts = all.flatMap told ++ later) :
    (loop name object member body next).Tells w scope facts := by
  refine ⟨_, _, all.map told, later, found, rfl, ?_, ?_, tells⟩
  · rw [whole, List.flatMap_def]
  · rw [List.forall₂_map_left_iff, List.forall₂_map_right_iff, List.forall₂_same]
    exact rounds

variable [DecidableEq σ]

/-- A slot before an outline, unless it starts with the same one. -/
def mention (s : σ) (o : Outline ρ σ) : Outline ρ σ :=
  match o with
  | word t next => if s = t then word t next else word s (word t next)
  | o => word s o

theorem tells_mention {s : σ} {o : Outline ρ σ} :
    (mention s o).Tells w scope facts ↔ IsWord (w.word scope s) ∧ o.Tells w scope facts := by
  cases o with
  | word t next =>
    by_cases same : s = t
    · subst same
      simp [mention, Tells]
    · simp [mention, same, Tells]
  | _ => exact Iff.rfl

theorem tells_mentions {slots : List σ} {o : Outline ρ σ} :
    (slots.foldr mention o).Tells w scope facts ↔
      (∀ s ∈ slots, IsWord (w.word scope s)) ∧ o.Tells w scope facts := by
  induction slots with
  | nil => simp
  | cons s slots ih => simp [tells_mention, ih, and_assoc]

def append : Outline ρ σ → Outline ρ σ → Outline ρ σ
  | nothing, o => o
  | word slot next, o => mention slot (next.append o)
  | fact told next, o => fact told (next.append o)
  | choice object member yes no next, o => choice object member yes no (next.append o)
  | loop name object member body next, o => loop name object member body (next.append o)

theorem tells_append {first second : Outline ρ σ} :
    (first.append second).Tells w scope facts ↔ ∃ here later, facts = here ++ later ∧
      first.Tells w scope here ∧ second.Tells w scope later := by
  induction first generalizing facts with
  | nothing =>
    constructor
    · exact fun tells => ⟨[], facts, rfl, rfl, tells⟩
    · rintro ⟨_, later, rfl, rfl, tells⟩
      exact tells
  | word slot next ih =>
    rw [append, tells_mention, ih]
    constructor
    · rintro ⟨word, here, later, rfl, first, second⟩
      exact ⟨here, later, rfl, ⟨word, first⟩, second⟩
    · rintro ⟨here, later, rfl, ⟨word, first⟩, second⟩
      exact ⟨word, here, later, rfl, first, second⟩
  | fact told next ih =>
    constructor
    · rintro ⟨words, rest, rfl, more⟩
      obtain ⟨here, later, rfl, first, second⟩ := ih.mp more
      exact ⟨_, later, rfl, ⟨words, here, rfl, first⟩, second⟩
    · rintro ⟨_, later, rfl, ⟨words, here, rfl, first⟩, second⟩
      exact ⟨words, _, rfl, ih.mpr ⟨here, later, rfl, first, second⟩⟩
  | choice object member yes no next _ _ ih =>
    constructor
    · rintro ⟨v, front, rest, evaluated, rfl, taken, other, more⟩
      obtain ⟨here, later, rfl, first, second⟩ := ih.mp more
      exact ⟨_, later, (List.append_assoc ..).symm,
        ⟨v, front, here, evaluated, rfl, taken, other, first⟩, second⟩
    · rintro ⟨_, later, rfl, ⟨v, front, here, evaluated, rfl, taken, other, first⟩, second⟩
      exact ⟨v, front, _, evaluated, List.append_assoc .., taken, other,
        ih.mpr ⟨here, later, rfl, first, second⟩⟩
  | loop name object member body next _ ih =>
    constructor
    · rintro ⟨v, all, parts, rest, evaluated, found, rfl, rounds, more⟩
      obtain ⟨here, later, rfl, first, second⟩ := ih.mp more
      exact ⟨_, later, (List.append_assoc ..).symm,
        ⟨v, all, parts, here, evaluated, found, rfl, rounds, first⟩, second⟩
    · rintro ⟨_, later, rfl, ⟨v, all, parts, here, evaluated, found, rfl, rounds, first⟩, second⟩
      exact ⟨v, all, parts, _, evaluated, found, List.append_assoc .., rounds,
        ih.mpr ⟨here, later, rfl, first, second⟩⟩

end Outline

/-! ### The outline of a template -/

def slotsOf (parts : List (Part σ)) : List σ :=
  parts.filterMap fun
    | .slot s => some s
    | _ => none

section

variable [DecidableEq ρ] [DecidableEq σ] (phrases : List (Phrase ρ σ)) (w : Wording σ)

/-- The outline of a line with these parts. -/
def Outline.ofLine (parts : List (Part σ)) : Option (Outline ρ σ) :=
  (recognize phrases parts).map fun facts =>
    let others := (slotsOf parts).filter fun s => facts.all fun fact => s ∉ fact.words
    others.foldr mention (tell facts nothing)

/-- The outline of a text; the line that it starts on has begun already. It and the one that the text
ends on are given from their ends. -/
def Outline.ofText (begun : List (Part σ)) : List Char → Option (Outline ρ σ × List (Part σ))
  | [] => some (nothing, begun)
  | c :: rest =>
    if c = '\n' then do
      let here ← ofLine phrases begun.reverse
      let (later, left) ← ofText [] rest
      return (here.append later, left)
    else ofText (.char c :: begun) rest

/-- The outline of a choice. It is no matter what decides between branches that tell nothing. -/
def Outline.chosen (test : Expr) (yes no : Outline ρ σ) : Option (Outline ρ σ) :=
  if yes = nothing ∧ no = nothing then some nothing
  else
    match test with
    | .member (.var object) member => some (choice object member yes no nothing)
    | _ => none

def Outline.looped (name : String) (source : Expr) (body : Outline ρ σ) : Option (Outline ρ σ) :=
  if body = nothing then some nothing
  else
    match source with
    | .member (.var object) member => some (loop name object member body nothing)
    | _ => none

mutual

/-- The outline of a part of a template, if it is certain. Branches and loops take up whole lines,
and nothing is told where a loop has no rounds. -/
def outline (shapes : Shapes) (begun : List (Part σ)) :
    Template.Node → Option (Outline ρ σ × List (Part σ))
  | .text s => Outline.ofText phrases begun s
  | .print e =>
    match w.slot? e with
    | some s => some (.nothing, .slot s :: begun)
    | none =>
      match e.isPath, e.shape? shapes with
      | true, some .leaf => some (.nothing, .other :: begun)
      | _, _ => none
  | .choice test yes no =>
    match begun, outlineAll shapes [] yes, outlineAll shapes [] no with
    | [], some (first, []), some (second, []) => (Outline.chosen test first second).map (·, [])
    | _, _, _ => none
  | .loop name source body empty =>
    match begun, source.isPath, source.shape? shapes, outlineAll shapes [] empty with
    | [], true, some (.row item), some (.nothing, []) =>
      match outlineAll ((name, item) :: ("loop", .any) :: shapes) [] body with
      | some (inside, []) => (Outline.looped name source inside).map (·, [])
      | _ => none
    | _, _, _, _ => none

def outlineAll (shapes : Shapes) (begun : List (Part σ)) :
    List Template.Node → Option (Outline ρ σ × List (Part σ))
  | [] => some (.nothing, begun)
  | node :: rest => do
    let (here, left) ← outline shapes begun node
    let (later, left) ← outlineAll shapes left rest
    return (here.append later, left)

end

end

/-! ### Filled-in templates -/

section

variable {phrases : List (Phrase ρ σ)} {w : Wording σ} {scope : Scope}

theorem mem_slotsOf {parts : List (Part σ)} {s : σ} : s ∈ slotsOf parts ↔ .slot s ∈ parts := by
  simp only [slotsOf, List.mem_filterMap]
  constructor
  · rintro ⟨part, member, same⟩
    cases part <;> cases same
    exact member
  · exact fun member => ⟨_, member, rfl⟩

variable [DecidableEq σ]

/-- A text of code points says the same in its layout. -/
theorem readText_tidyText (clear : ∀ p ∈ phrases, p.isClear = true) {codes : CodePoints}
    {text : String} (laid : Layout.tidyText codes = .ok text) :
    readText phrases text.toList = readText phrases codes.chars := by
  cases codes with
  | string s =>
    obtain rfl : Text.onString Layout.tidy s = text := Except.ok.inj laid
    rw [Text.toList_onString, readText_tidy clear, CodePoints.chars_string]
  | broken codes => cases laid

/-- Whether a text tells what an outline does, from the line that it starts on to the one it ends on,
the beginnings of both being given from their ends. -/
def Matches (phrases : List (Phrase ρ σ)) (w : Wording σ) (scope : Scope) (o : Outline ρ σ)
    (begun left : List (Part σ)) (text : List Char) : Prop :=
  ∀ facts before, o.Tells w scope facts → Realizes (· ≠ '\n') (w.word scope) begun.reverse before →
    ∃ after, Realizes (· ≠ '\n') (w.word scope) left.reverse after ∧
      ∀ rest, readText phrases (before ++ text ++ rest) = facts ++ readText phrases (after ++ rest)

theorem Matches.append {first second : Outline ρ σ} {begun between left : List (Part σ)}
    {text more : List Char} (here : Matches phrases w scope first begun between text)
    (later : Matches phrases w scope second between left more) :
    Matches phrases w scope (first.append second) begun left (text ++ more) := by
  intro facts before tells realized
  obtain ⟨front, back, rfl, told, next⟩ := Outline.tells_append.mp tells
  obtain ⟨middle, known, reads⟩ := here front before told realized
  obtain ⟨after, done, continues⟩ := later back middle next known
  refine ⟨after, done, fun rest => ?_⟩
  rw [← List.append_assoc, List.append_assoc (before ++ text), reads, ← List.append_assoc middle,
    continues, List.append_assoc]

/-- A piece of a line tells nothing yet. -/
theorem matches_part {begun : List (Part σ)} {part : Part σ} {text : List Char}
    (realized : Realizes (· ≠ '\n') (w.word scope) [part] text) :
    Matches phrases w scope .nothing begun (part :: begun) text := by
  rintro _ before rfl known
  refine ⟨before ++ text, ?_, fun rest => rfl⟩
  rw [List.reverse_cons]
  exact known.append realized

/-- The rounds of a loop tell what each of them does, if each takes up whole lines. -/
theorem readText_rounds {body : Nat → Value → Except RenderError CodePoints} {all : List Value}
    {parts : List (List (Fact ρ (List Char)))}
    (each : List.Forall₂ (fun item here => ∀ index text, body index item = .ok text →
      ∀ rest, readText phrases (text.chars ++ rest) = here ++ readText phrases rest) all parts)
    {index : Nat} {text : CodePoints} (done : rounds body index all = .ok text) (rest : List Char) :
    readText phrases (text.chars ++ rest) = parts.flatten ++ readText phrases rest := by
  induction each generalizing index text with
  | nil =>
    cases done
    simp
  | cons here _ ih =>
    simp only [rounds, bind_ok_iff, pure_ok, Except.ok.injEq] at done
    obtain ⟨front, first, back, second, rfl⟩ := done
    rw [CodePoints.chars_append, List.append_assoc, here index front first, ih second,
      List.flatten_cons, List.append_assoc]

/-- What takes up whole lines. -/
theorem Matches.whole {o : Outline ρ σ} {text : List Char}
    (found : Matches phrases w scope o [] [] text) {facts : List (Fact ρ (List Char))}
    (tells : o.Tells w scope facts) (rest : List Char) :
    readText phrases (text ++ rest) = facts ++ readText phrases rest := by
  obtain ⟨after, known, reads⟩ := found facts [] tells .nil
  cases known
  exact reads rest

theorem matches_of_whole {o : Outline ρ σ} {text : List Char}
    (reads : ∀ facts, o.Tells w scope facts →
      ∀ rest, readText phrases (text ++ rest) = facts ++ readText phrases rest) :
    Matches phrases w scope o [] [] text := by
  intro facts before tells realized
  cases realized
  exact ⟨[], .nil, reads facts tells⟩

theorem matches_ofLine (clear : ∀ p ∈ phrases, p.isClear = true) {begun : List (Part σ)}
    {o : Outline ρ σ} (made : Outline.ofLine phrases begun.reverse = some o) :
    Matches phrases w scope o begun [] ['\n'] := by
  intro facts before tells realized
  obtain ⟨told, recognized, rfl⟩ := Option.map_eq_some_iff.mp made
  obtain ⟨others, tells⟩ := Outline.tells_mentions.mp tells
  obtain ⟨words, _, rfl, rfl⟩ := Outline.tells_tell.mp tells
  have filled : Filled (w.word scope) begun.reverse := by
    intro s member
    by_cases mentioned : ∃ fact ∈ told, s ∈ fact.words
    · obtain ⟨fact, listed, here⟩ := mentioned
      exact words fact listed s here
    · refine others s (List.mem_filter.mpr ⟨mem_slotsOf.mpr member, ?_⟩)
      simpa using mentioned
  refine ⟨[], .nil, fun rest => ?_⟩
  rw [List.append_assoc, List.singleton_append, readText_append_cons,
    readText_line (realized.oneLine filled), readLine_of_recognize clear recognized filled realized,
    List.append_nil, List.nil_append]

theorem matches_ofText (clear : ∀ p ∈ phrases, p.isClear = true) {begun left : List (Part σ)}
    {s : List Char} {o : Outline ρ σ} (made : Outline.ofText phrases begun s = some (o, left)) :
    Matches phrases w scope o begun left s := by
  induction s generalizing begun o with
  | nil =>
    cases made
    rintro _ before rfl known
    exact ⟨before, known, fun rest => by simp⟩
  | cons c rest ih =>
    rw [Outline.ofText] at made
    split at made
    case isTrue feed =>
      subst feed
      obtain ⟨here, first, made⟩ := Option.bind_eq_some_iff.mp made
      obtain ⟨⟨later, _⟩, second, made⟩ := Option.bind_eq_some_iff.mp made
      cases made
      exact (matches_ofLine clear first).append (ih second)
    case isFalse inside =>
      have part : Realizes (· ≠ '\n') (w.word scope) [.char c] [c] := .char inside .nil
      exact (matches_part part).append (ih made)

variable [DecidableEq ρ]

theorem Outline.tells_of_chosen {test : Expr} {yes no o : Outline ρ σ} {v : Value}
    {facts : List (Fact ρ (List Char))} (made : chosen test yes no = some o)
    (evaluated : test.eval scope = .ok v) (tells : o.Tells w scope facts) :
    (v.truthy = true → yes.Tells w scope facts) ∧ (v.truthy = false → no.Tells w scope facts) := by
  unfold chosen at made
  split at made
  case isTrue none =>
    obtain ⟨rfl, rfl⟩ := none
    cases made
    exact ⟨fun _ => tells, fun _ => tells⟩
  case isFalse =>
    split at made
    case h_1 object member =>
      cases made
      obtain ⟨u, here, later, found, rfl, taken, skipped, rfl⟩ := tells
      cases evaluated.symm.trans found
      rw [List.append_nil]
      exact ⟨taken, skipped⟩
    case h_2 => cases made

theorem Outline.tells_of_looped {name : String} {source : Expr} {body o : Outline ρ σ} {v : Value}
    {all : List Value} {facts : List (Fact ρ (List Char))} (made : looped name source body = some o)
    (evaluated : source.eval scope = .ok v) (found : items v = .ok all)
    (tells : o.Tells w scope facts) :
    ∃ parts, facts = parts.flatten ∧ List.Forall₂
      (fun item here => ∀ index, body.Tells w (loopScope scope name all index item) here)
      all parts := by
  unfold looped at made
  split at made
  case isTrue none =>
    subst none
    cases made
    refine ⟨all.map fun _ => [], ?_, ?_⟩
    · exact tells.trans (List.flatten_eq_nil_iff.mpr (by simp)).symm
    · exact List.forall₂_map_right_iff.mpr (List.forall₂_same.mpr fun _ _ _ => rfl)
  case isFalse =>
    split at made
    case h_1 object member =>
      cases made
      obtain ⟨u, _, parts, later, value, listed, rfl, each, rfl⟩ := tells
      cases evaluated.symm.trans value
      cases found.symm.trans listed
      exact ⟨parts, List.append_nil _, each⟩
    case h_2 => cases made

mutual

theorem outline_matches (clear : ∀ p ∈ phrases, p.isClear = true) :
    ∀ (node : Template.Node) {shapes : Shapes} {scope : Scope} {begun left : List (Part σ)}
      {o : Outline ρ σ} {text : CodePoints}, shapes.Fit OneLine scope →
      outline phrases w shapes begun node = some (o, left) → node.render scope = .ok text →
      Matches phrases w scope o begun left text.chars
  | .text s, _, _, _, _, _, _, _, outlined, rendered => by
    cases rendered
    rw [outline] at outlined
    rw [CodePoints.chars_string, String.toList_ofList]
    exact matches_ofText clear outlined
  | .print e, shapes, scope, _, _, _, _, fit, outlined, rendered => by
    obtain ⟨v, evaluated, done⟩ := bind_ok_iff.mp rendered
    cases done
    rw [outline] at outlined
    split at outlined
    case h_1 s named =>
      cases outlined
      have same : w.word scope s = (shown v).chars := by
        rw [Wording.word, ← w.expr_of_slot? named, evaluated]
      have part : Realizes (· ≠ '\n') (w.word scope) [.slot s] (w.word scope s ++ []) := .slot .nil
      rw [List.append_nil, same] at part
      exact matches_part part
    case h_2 =>
      split at outlined
      case h_1 path typed =>
        cases outlined
        obtain ⟨u, found, fits⟩ := Expr.eval_fits_of_isPath fit path typed
        cases evaluated.symm.trans found
        have line : ∀ c ∈ (shown v).chars, c ≠ '\n' := fun c member feed => fits.1 (feed ▸ member)
        have part : Realizes (· ≠ '\n') (w.word scope) [.other] ((shown v).chars ++ []) :=
          .other line .nil
        rw [List.append_nil] at part
        exact matches_part part
      case h_2 => cases outlined
  | .choice test yes no, shapes, scope, _, _, _, text, fit, outlined, rendered => by
    obtain ⟨v, evaluated, done⟩ := bind_ok_iff.mp rendered
    unfold outline at outlined
    split at outlined
    case h_1 first second known other =>
      obtain ⟨o, chosen, same⟩ := Option.map_eq_some_iff.mp outlined
      cases same
      refine matches_of_whole fun facts tells rest => ?_
      have branch := Outline.tells_of_chosen chosen evaluated tells
      cases holds : v.truthy with
      | true =>
        rw [holds, if_pos rfl] at done
        exact (outlineAll_matches clear yes fit known done).whole (branch.1 holds) rest
      | false =>
        rw [holds, if_neg Bool.false_ne_true] at done
        exact (outlineAll_matches clear no fit other done).whole (branch.2 holds) rest
    case h_2 => cases outlined
  | .loop name source body empty, shapes, scope, _, _, _, text, fit, outlined, rendered => by
    obtain ⟨v, evaluated, done⟩ := bind_ok_iff.mp rendered
    obtain ⟨all, found, done⟩ := bind_ok_iff.mp done
    unfold outline at outlined
    split at outlined
    case h_1 item path typed none =>
      split at outlined
      case h_1 inside known =>
        obtain ⟨o, looped, same⟩ := Option.map_eq_some_iff.mp outlined
        cases same
        refine matches_of_whole fun facts tells rest => ?_
        have fits : ∀ v ∈ all, item.Fits OneLine v := by
          obtain ⟨u, value, _, listed, each⟩ := Expr.eval_fits_of_isPath fit path typed
          cases evaluated.symm.trans value
          cases found.symm.trans listed
          exact each
        obtain ⟨parts, rfl, each⟩ := Outline.tells_of_looped looped evaluated found tells
        by_cases rounded : all.isEmpty = true
        · rw [if_pos rounded] at done
          rw [List.isEmpty_iff.mp rounded] at each
          cases each
          exact (outlineAll_matches clear empty fit none done).whole rfl rest
        · rw [if_neg rounded] at done
          refine readText_rounds ?_ done rest
          refine ((List.forall₂_and_left all parts).mpr ⟨fits, each⟩).imp ?_
          rintro v here ⟨fits, tells⟩ index text rendered rest
          have anything : Shape.any.Fits OneLine (loopRecord all index) := trivial
          have inner := (fit.cons anything "loop").cons fits name
          exact (outlineAll_matches clear body inner known rendered).whole (tells index) rest
      case h_2 => cases outlined
    case h_2 => cases outlined

theorem outlineAll_matches (clear : ∀ p ∈ phrases, p.isClear = true) :
    ∀ (nodes : List Template.Node) {shapes : Shapes} {scope : Scope} {begun left : List (Part σ)}
      {o : Outline ρ σ} {text : CodePoints}, shapes.Fit OneLine scope →
      outlineAll phrases w shapes begun nodes = some (o, left) → renderAll scope nodes = .ok text →
      Matches phrases w scope o begun left text.chars
  | [], _, _, _, _, _, _, _, outlined, rendered => by
    rw [outlineAll] at outlined
    cases outlined
    cases rendered
    exact matches_ofText (s := []) clear rfl
  | node :: rest, _, _, _, _, _, _, fit, outlined, rendered => by
    rw [outlineAll] at outlined
    obtain ⟨⟨here, between⟩, first, outlined⟩ := Option.bind_eq_some_iff.mp outlined
    obtain ⟨⟨later, _⟩, second, same⟩ := Option.bind_eq_some_iff.mp outlined
    cases same
    simp only [renderAll, bind_ok_iff, pure_ok, Except.ok.injEq] at rendered
    obtain ⟨front, done, back, after, rfl⟩ := rendered
    rw [CodePoints.chars_append]
    exact (outline_matches clear node fit first done).append
      (outlineAll_matches clear rest fit second after)

end

/-- A template that is filled in tells what its outline does. -/
theorem readText_renderAll (clear : ∀ p ∈ phrases, p.isClear = true) {nodes : List Template.Node}
    {shapes : Shapes} {o : Outline ρ σ} {text : CodePoints} {facts : List (Fact ρ (List Char))}
    (outlined : outlineAll phrases w shapes [] nodes = some (o, []))
    (fit : shapes.Fit OneLine scope) (rendered : renderAll scope nodes = .ok text)
    (tells : o.Tells w scope facts) : readText phrases text.chars = facts := by
  have whole := (outlineAll_matches clear nodes fit outlined rendered).whole tells []
  have nothing : readText phrases [] = [] := by
    rw [readText_line List.not_mem_nil, readLine_nil clear]
  rwa [List.append_nil, nothing, List.append_nil] at whole

end

end Code

end RpcBindings
