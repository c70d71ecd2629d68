import RpcBindings.Text.Blank
import RpcBindings.Text.CodePoints
import RpcBindings.Text.Split

/-! The layout of generated text: no blanks at the ends of lines, at most two blank lines in a row,
and none at the start or the end. -/
namespace RpcBindings.Layout

open Text

/-- The lines with every run of empty ones cut to two; `run` is the number of empty ones before. -/
def capBlank (run : Nat) : List (List Char) → List (List Char)
  | [] => []
  | [] :: rest => if run < 2 then [] :: capBlank (run + 1) rest else capBlank (run + 1) rest
  | line :: rest => line :: capBlank 0 rest

/-- A list without the items at its end that satisfy a test. -/
def dropEnd {α : Type} (p : α → Bool) : List α → List α
  | [] => []
  | x :: rest =>
    match dropEnd p rest with
    | [] => if p x then [] else [x]
    | y :: kept => x :: y :: kept

/-- A text without line feeds at either end. -/
def stripNewlines (s : List Char) : List Char := dropEnd (· == '\n') (s.dropWhile (· == '\n'))

/-- The text in its layout; it ends with one line feed. -/
def tidy (s : List Char) : List Char :=
  stripNewlines (join ['\n'] (capBlank 0 ((split '\n' s).map trimEnd))) ++ ['\n']

/-- Where the layout puts the character that comes after some others, if it is no blank. What comes
after it plays no part. -/
def positionAfter (before : List Char) : Nat := (tidy (before ++ ['\uFFFD'])).length - 2

/-- A text of code points in its layout, or why it is no string. -/
def tidyText : CodePoints → Except EncodeFault String
  | .string s => .ok (onString tidy s)
  | .broken codes =>
    let fault := EncodeFault.ofCodes codes
    .error { fault with
      position := positionAfter ((codes.take fault.position).map Char.ofNat) }

end RpcBindings.Layout
