import RpcBindings.Text.Case
import RpcBindings.Text.Blank
import RpcBindings.Text.PictureTable
import RpcBindings.Text.Split

/-! Pictures in texts that are shown: a name between two colons stands for the picture of that name.
Behind the name, and a dash, there may be the word `emoji` or `text`, which asks for one of the two
forms of the picture. -/
namespace RpcBindings.Text

/-- The picture with a name among names and pictures in turn. -/
def pictureIn? (name : List Char) : List (List Char) → Option (List Char)
  | key :: picture :: rest => if key = name then some picture else pictureIn? name rest
  | _ => none

/-- The picture with a name in lowercase. -/
def picture? (name : List Char) : Option (List Char) :=
  pictureRows.findSome? fun row => pictureIn? name (split ' ' row.toList)

/-- The words that ask for a form of a picture, up to the colon, and the selectors of the forms. -/
def pictureForms : List (List Char × Char) := [
  ("-emoji:".toList, '\uFE0F'), ("-text:".toList, '\uFE0E')]

structure PictureName where
  name : List Char
  selector : Option Char
  rest : List Char

/-- Reads a name behind a colon; there are no blanks in names. -/
def readPictureName (s : List Char) : Option PictureName :=
  match pictureForms.find? fun form => form.1.isPrefixOf s with
  | some (word, selector) => some ⟨[], some selector, s.drop word.length⟩
  | none =>
    match s with
    | [] => none
    | c :: rest =>
      if c = ':' then some ⟨[], none, rest⟩
      else if isBlank c then none
      else (readPictureName rest).map fun found => { found with name := c :: found.name }

/-- The characters that a name between colons stands for, if it is the name of a picture. -/
def PictureName.picture? (n : PictureName) : Option (List Char) :=
  (Text.picture? (lower n.name)).map fun picture => picture ++ n.selector.toList

/-- A text with its pictures in place, of which `skip` characters have been taken up already. -/
def withPicturesFrom : (skip : Nat) → List Char → List Char
  | _, [] => []
  | skip + 1, _ :: rest => withPicturesFrom skip rest
  | 0, c :: rest =>
    match if c = ':' then readPictureName rest else none with
    | none => c :: withPicturesFrom 0 rest
    | some found =>
      let taken := rest.length - found.rest.length
      found.picture?.getD (c :: rest.take taken) ++ withPicturesFrom taken rest

def withPictures (s : List Char) : List Char := withPicturesFrom 0 s

end RpcBindings.Text
