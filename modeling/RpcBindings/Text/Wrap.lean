import RpcBindings.Text.Blank
import RpcBindings.Text.Split
import RpcBindings.Text.Width

/-! Texts cut into lines of a limited number of columns. As many words go on a line as fit. A word
that is longer than any line is folded, or it has a line of its own that ends in an ellipsis. -/
namespace RpcBindings.Text

/-- What becomes of a word that is longer than a line. -/
inductive Overflow where
  | fold
  | ellipsis
  deriving DecidableEq, Repr

/-- The words of a text, each with the blanks behind it; blanks at the start stand alone. -/
def splitWords : List Char → List (List Char)
  | [] => []
  | c :: rest =>
    match splitWords rest with
    | [] => [[c]]
    | word :: more =>
      if isBlank c && !word.head?.any isBlank then [c] :: word :: more else (c :: word) :: more

/-- The words of a text, each with the blanks behind it, and the first with those before it. -/
def words (s : List Char) : List (List Char) :=
  match splitWords s with
  | first :: second :: more =>
    if first.all isBlank then (first ++ second) :: more else first :: second :: more
  | few => few

/-- Pieces of at most `limit` columns; `used` columns of the first, `piece`, are taken already. -/
def chop (limit : Nat) (piece : List Char) (used : Nat) : List Cluster → List (List Char)
  | [] => [piece]
  | k :: rest =>
    if limit < used + k.columns then piece :: chop limit k.text k.columns rest
    else chop limit (piece ++ k.text) (used + k.columns) rest

/-- A line that is complete, unless it is empty. -/
def finished (line : List Char) : List (List Char) := if line.isEmpty then [] else [line]

/-- Lines from words; `line` is the line that the next word may still fit on, and `used` are its
columns. -/
def wrapWords (overflow : Overflow) (limit : Nat) (line : List Char) (used : Nat) :
    List (List Char) → List (List Char)
  | [] => [line]
  | word :: rest =>
    let columns := width (trimEnd word)
    if used + columns ≤ limit then
      wrapWords overflow limit (line ++ word) (used + width word) rest
    else if columns ≤ limit ∨ overflow = .ellipsis then
      finished line ++ wrapWords overflow limit word (width word) rest
    else
      let pieces := chop limit [] 0 (clusters word)
      let last := pieces.getLastD []
      finished line ++ pieces.dropLast ++ wrapWords overflow limit last (width last) rest

def tabStop : Nat := 8

/-- A line with its tabs filled up with blanks, `used` columns being taken before `part`, which goes
up to the next tab. -/
def expandFrom (used : Nat) (part : List Char) : List Char → List Char
  | [] => part
  | c :: rest =>
    if c = '\t' then
      let filled := padEnd ((used + width part) / tabStop * tabStop + tabStop - used) part
      filled ++ expandFrom (used + width filled) [] rest
    else expandFrom used (part ++ [c]) rest

def expandTabs (line : List Char) : List Char := expandFrom 0 [] line

/-- A line without the blanks at its end that make it longer than `limit`. -/
def dropExcess (limit : Nat) (line : List Char) : List Char :=
  let blanks := line.length - (trimEnd line).length
  line.take (line.length - min blanks (line.length - limit))

def fitted (overflow : Overflow) (limit : Nat) (line : List Char) : List Char :=
  if width line ≤ limit then line
  else match overflow with
    | .fold => crop limit (clusters line)
    | .ellipsis => crop (limit - 1) (clusters line) ++ ['…']

/-- The lines of a text; line breaks in the text are kept. -/
def wrap (overflow : Overflow) (limit : Nat) (s : List Char) : List (List Char) :=
  (split '\n' s).flatMap fun part =>
    (wrapWords overflow limit [] 0 (words (expandTabs part))).map fun line =>
      fitted overflow limit (dropExcess limit line)

end RpcBindings.Text
