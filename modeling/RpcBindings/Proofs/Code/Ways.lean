import Mathlib.Data.List.Infix
import RpcBindings.Proofs.Code.Outline

/-! The ways through a template: what its text consists of if certain branches are taken. A line that
all ways through the body of a loop lead through is in the text once for each item, whatever the rest
of the text is like. -/
namespace RpcBindings.Code

open Outcome Template Text

variable {ρ σ : Type}

section

variable (w : Wording σ)

mutual

/-- The ways through a part of a template; what a loop gives is left unknown. -/
def ways : Template.Node → List (List (Part σ))
  | .text s => [s.map .char]
  | .print e =>
    match w.slot? e with
    | some s => [[.slot s]]
    | none => [[.other]]
  | .choice _ yes no => waysAll yes ++ waysAll no
  | .loop .. => [[.other]]

def waysAll : List Template.Node → List (List (Part σ))
  | [] => [[]]
  | node :: rest => (ways node).flatMap fun here => (waysAll rest).map (here ++ ·)

end

end

variable {w : Wording σ} {scope : Scope}

/-- A text of any characters that consists of some parts. -/
abbrev Follows (w : Wording σ) (scope : Scope) (way : List (Part σ)) (text : List Char) : Prop :=
  Realizes (fun _ => True) (w.word scope) way text

theorem follows_chars (s : List Char) : Follows w scope (s.map .char) s := by
  induction s with
  | nil => exact .nil
  | cons c s ih => exact .char trivial ih

theorem follows_other (s : List Char) : Follows w scope [.other] s := by
  have whole : Follows w scope [.other] (s ++ []) := .other (fun _ _ => trivial) .nil
  rwa [List.append_nil] at whole

mutual

/-- Whichever branches are taken, the text of a part follows one of its ways. -/
theorem ways_follows : ∀ (node : Template.Node) {scope : Scope} {text : CodePoints},
    node.render scope = .ok text → ∃ way ∈ ways w node, Follows w scope way text.chars
  | .text s, _, _, rendered => by
    cases rendered
    rw [CodePoints.chars_string, String.toList_ofList]
    exact ⟨_, List.mem_singleton_self _, follows_chars s⟩
  | .print e, scope, _, rendered => by
    obtain ⟨v, evaluated, done⟩ := bind_ok_iff.mp rendered
    cases done
    rw [ways]
    split
    case h_1 s named =>
      have same : w.word scope s = (shown v).chars := by
        rw [Wording.word, ← w.expr_of_slot? named, evaluated]
      have part : Follows w scope [.slot s] (w.word scope s ++ []) := .slot .nil
      rw [List.append_nil, same] at part
      exact ⟨_, List.mem_singleton_self _, part⟩
    case h_2 => exact ⟨_, List.mem_singleton_self _, follows_other _⟩
  | .choice test yes no, _, _, rendered => by
    obtain ⟨v, -, done⟩ := bind_ok_iff.mp rendered
    rw [ways]
    split at done
    case isTrue =>
      obtain ⟨way, member, follows⟩ := waysAll_follows yes done
      exact ⟨way, List.mem_append_left _ member, follows⟩
    case isFalse =>
      obtain ⟨way, member, follows⟩ := waysAll_follows no done
      exact ⟨way, List.mem_append_right _ member, follows⟩
  | .loop .., _, _, _ => ⟨_, List.mem_singleton_self _, follows_other _⟩

theorem waysAll_follows : ∀ (nodes : List Template.Node) {scope : Scope} {text : CodePoints},
    renderAll scope nodes = .ok text → ∃ way ∈ waysAll w nodes, Follows w scope way text.chars
  | [], _, _, rendered => by
    cases rendered
    exact ⟨[], List.mem_singleton_self _, .nil⟩
  | node :: rest, _, _, rendered => by
    simp only [renderAll, bind_ok_iff, pure_ok, Except.ok.injEq] at rendered
    obtain ⟨front, done, back, after, rfl⟩ := rendered
    obtain ⟨here, first, follows⟩ := ways_follows node done
    obtain ⟨later, second, continues⟩ := waysAll_follows rest after
    refine ⟨here ++ later, ?_, ?_⟩
    · exact List.mem_flatMap.mpr ⟨here, first, List.mem_map_of_mem second⟩
    · rw [CodePoints.chars_append]
      exact follows.append continues

end

/-! ### Lines on the way -/

theorem slot_mem_of_part {pieces : List (Piece σ)} {s : σ}
    (member : .slot s ∈ pieces.map Piece.part) : s ∈ gaps pieces := by
  induction pieces with
  | nil => cases member
  | cons piece rest ih =>
    cases piece with
    | char c => simpa [Piece.part, gaps] using ih (by simpa [Piece.part] using member)
    | gap t =>
      rcases List.mem_cons.mp member with same | later
      · cases same
        exact List.mem_cons_self
      · exact List.mem_cons_of_mem _ (ih later)

theorem other_not_mem_parts (pieces : List (Piece σ)) : .other ∉ pieces.map Piece.part := by
  intro member
  obtain ⟨piece, -, same⟩ := List.mem_map.mp member
  cases piece <;> cases same

theorem Realizes.single {allowed : Char → Prop} {word : σ → List Char} {c : Char} {text : List Char}
    (realized : Realizes allowed word [.char c] text) : text = [c] := by
  cases realized with
  | char _ realized =>
    cases realized
    rfl

section

variable [DecidableEq ρ] [DecidableEq σ] {phrases : List (Phrase ρ σ)} {fact : Fact ρ σ}

/-- Whether a way leads through a whole line that tells a fact and nothing else. -/
def leadsThrough (phrases : List (Phrase ρ σ)) (fact : Fact ρ σ) (way : List (Part σ)) : Bool :=
  phrases.any fun p =>
    let line := p.pieces.map Piece.part
    recognize phrases line = some [fact] && gaps p.pieces ⊆ fact.words && .char '\n' ∉ line &&
      ([.char '\n'] ++ line ++ [.char '\n']) <:+: way

/-- What a line on the way tells is told by every text that holds the one that follows the way. -/
theorem mem_readText_of_leadsThrough (clear : ∀ p ∈ phrases, p.isClear = true)
    {way : List (Part σ)} (leads : leadsThrough phrases fact way = true)
    (words : ∀ s ∈ fact.words, IsWord (w.word scope s)) {text : List Char}
    (follows : Follows w scope way text) (before after : List Char) :
    fact.map (w.word scope) ∈ readText phrases (before ++ text ++ after) := by
  obtain ⟨p, -, found⟩ := List.any_eq_true.mp leads
  simp only [Bool.and_eq_true, decide_eq_true_eq] at found
  obtain ⟨⟨⟨recognized, spoken⟩, inside⟩, front, back, rfl⟩ := found
  have filled : Filled (w.word scope) (p.pieces.map Piece.part) := fun s member =>
    words s (spoken (slot_mem_of_part member))
  obtain ⟨_, rest, rfl, head, -⟩ := follows.split
  obtain ⟨start, _, rfl, -, middle⟩ := head.split
  obtain ⟨_, _, rfl, opening, ending⟩ := middle.split
  obtain ⟨_, line, rfl, feed, realized⟩ := opening.split
  cases feed.single
  cases ending.single
  have known : Realizes (· ≠ '\n') (w.word scope) (p.pieces.map Piece.part) line :=
    realized.of_known (fun c member feed => inside (feed ▸ member)) (other_not_mem_parts p.pieces)
  have cut : before ++ (start ++ (['\n'] ++ line ++ ['\n']) ++ rest) ++ after =
      (before ++ start) ++ '\n' :: (line ++ '\n' :: (rest ++ after)) := by simp
  have read := readLine_of_recognize clear recognized filled known
  rw [cut, readText_append_cons, readText_append_cons, readText_line (known.oneLine filled), read]
  simp

end

/-! ### Loops -/

/-- The body of a loop over a member of an object, if a part of a template is one. -/
def loopBody? (name object member : String) : Template.Node → Option (List Template.Node)
  | .loop own (.member (.var source) list) body _ =>
    if own = name ∧ source = object ∧ list = member then some body else none
  | _ => none

theorem loopBody?_eq_some {name object member : String} {node : Template.Node}
    {body : List Template.Node} (found : loopBody? name object member node = some body) :
    ∃ empty, node = .loop name (.member (.var object) member) body empty := by
  unfold loopBody? at found
  split at found
  · split at found
    case isTrue same =>
      obtain ⟨rfl, rfl, rfl⟩ := same
      cases found
      exact ⟨_, rfl⟩
    case isFalse => cases found
  · cases found

/-- What a round of a loop gives stands in the text of the loop. -/
theorem rounds_holds {body : Nat → Value → Except RenderError CodePoints} {all : List Value}
    {index : Nat} {text : CodePoints} (done : rounds body index all = .ok text) {v : Value}
    (member : v ∈ all) : ∃ round here before after, body round v = .ok here ∧
      text.chars = before ++ here.chars ++ after := by
  induction all generalizing index text with
  | nil => cases member
  | cons first all ih =>
    simp only [rounds, bind_ok_iff, pure_ok, Except.ok.injEq] at done
    obtain ⟨front, here, back, later, rfl⟩ := done
    rcases List.mem_cons.mp member with rfl | member
    · exact ⟨index, front, [], back.chars, here, CodePoints.chars_append _ _⟩
    · obtain ⟨round, own, before, after, made, split⟩ := ih later member
      refine ⟨round, own, front.chars ++ before, after, made, ?_⟩
      simp [split]

/-- What a part gives stands in the text of a template. -/
theorem renderAll_holds {nodes : List Template.Node} {text : CodePoints}
    (rendered : renderAll scope nodes = .ok text) {node : Template.Node} (member : node ∈ nodes) :
    ∃ here before after, node.render scope = .ok here ∧
      text.chars = before ++ here.chars ++ after := by
  induction nodes generalizing text with
  | nil => cases member
  | cons first rest ih =>
    simp only [renderAll, bind_ok_iff, pure_ok, Except.ok.injEq] at rendered
    obtain ⟨front, here, back, later, rfl⟩ := rendered
    rcases List.mem_cons.mp member with rfl | member
    · exact ⟨front, [], back.chars, here, CodePoints.chars_append _ _⟩
    · obtain ⟨own, before, after, made, split⟩ := ih later member
      refine ⟨own, front.chars ++ before, after, made, ?_⟩
      simp [split]

section

variable [DecidableEq ρ] [DecidableEq σ] {phrases : List (Phrase ρ σ)} {fact : Fact ρ σ}

/-- Whether a part of a template is a loop over a member of an object that tells a fact in every
round. -/
def tellsEach (w : Wording σ) (phrases : List (Phrase ρ σ)) (name object member : String)
    (fact : Fact ρ σ) (node : Template.Node) : Bool :=
  match loopBody? name object member node with
  | some body => (waysAll w body).all (leadsThrough phrases fact)
  | none => false

/-- A template with a loop that tells a fact in every round tells it of every item. -/
theorem mem_readText_of_tellsEach (clear : ∀ p ∈ phrases, p.isClear = true)
    {name object member : String} {nodes : List Template.Node}
    (tells : nodes.any (tellsEach w phrases name object member fact) = true) {text : CodePoints}
    (rendered : renderAll scope nodes = .ok text) {v : Value} {all : List Value}
    (evaluated : (Expr.member (.var object) member).eval scope = .ok v) (found : items v = .ok all)
    {item : Value} (listed : item ∈ all) {told : Fact ρ (List Char)}
    (words : ∀ index, (∀ s ∈ fact.words, IsWord (w.word (loopScope scope name all index item) s)) ∧
      fact.map (w.word (loopScope scope name all index item)) = told) :
    told ∈ readText phrases text.chars := by
  obtain ⟨node, part, each⟩ := List.any_eq_true.mp tells
  unfold tellsEach at each
  split at each
  case h_2 => cases each
  case h_1 body loop =>
    obtain ⟨empty, rfl⟩ := loopBody?_eq_some loop
    obtain ⟨here, before, after, done, whole⟩ := renderAll_holds rendered part
    simp only [Node.render, evaluated, ok_bind, found] at done
    rw [if_neg (by simpa using List.ne_nil_of_mem listed)] at done
    obtain ⟨index, own, front, back, round, split⟩ := rounds_holds done listed
    obtain ⟨way, member, follows⟩ := waysAll_follows body (w := w) round
    have leads := List.all_eq_true.mp each way member
    obtain ⟨filled, same⟩ := words index
    have inside := mem_readText_of_leadsThrough clear leads filled follows (before ++ front)
      (back ++ after)
    rw [same] at inside
    rw [whole, split]
    simpa using inside

end

end RpcBindings.Code
