import RpcBindings.Text.Picture

/-! Texts as they are shown. Tags in brackets, which are about colours, vanish together with a few
control characters, and names of pictures give way to the pictures. -/
namespace RpcBindings.Text

def isTagStart (c : Char) : Bool := ('a' ≤ c && c ≤ 'z') || c == '#' || c == '/' || c == '@'

/-- The length of the tag that a text starts with, if it starts with one. -/
def tagLength? : List Char → Option Nat
  | '[' :: c :: rest =>
    if isTagStart c then
      let inner := rest.takeWhile fun d => d != '[' && d != ']'
      match rest.drop inner.length with
      | ']' :: _ => some (inner.length + 3)
      | _ => none
    else none
  | _ => none

/-- The stretches of a text between its tags. A backslash before a tag makes it plain, and two of
them are one. `part` is the stretch that is open, in reverse, with the backslashes behind it. -/
def stretches (part : List Char) (slashes : Nat) : (skip : Nat) → List Char → List (List Char)
  | _, [] => [(List.replicate slashes '\\' ++ part).reverse]
  | skip + 1, _ :: rest => stretches part slashes skip rest
  | 0, c :: rest =>
    if c = '\\' then stretches part (slashes + 1) 0 rest
    else match tagLength? (c :: rest) with
      | none =>
        let kept := if c = '[' then slashes - 1 else slashes
        stretches (c :: List.replicate kept '\\' ++ part) 0 0 rest
      | some length =>
        let literal := if slashes < 2 then [] else [List.replicate (slashes / 2) '\\']
        let before := part.reverse :: literal
        let tag := if slashes % 2 = 0 then [] else [(c :: rest).take length]
        before ++ tag ++ stretches [] 0 (length - 1) rest

/-- The control characters that are never shown: bell, backspace, and the breaks of lines and pages
other than the line feed. -/
def isSilent (c : Char) : Bool :=
  c == '\x07' || c == '\x08' || c == '\x0b' || c == '\x0c' || c == '\r'

def plain (s : String) : List Char :=
  ((stretches [] 0 0 s.toList).flatMap withPictures).filter fun c => !isSilent c

end RpcBindings.Text
