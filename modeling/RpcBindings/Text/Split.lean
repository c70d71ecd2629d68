/-! Texts cut at a separator character and put together again. -/
namespace RpcBindings.Text

/-- The parts of a text between the occurrences of `sep`; there is always one more part than there
are separators. -/
def split (sep : Char) : List Char → List (List Char)
  | [] => [[]]
  | c :: rest =>
    if c = sep then [] :: split sep rest
    else match split sep rest with
      | [] => [[c]]
      | part :: parts => (c :: part) :: parts

/-- The parts one after the other, `sep` between them. -/
def join (sep : List Char) : List (List Char) → List Char
  | [] => []
  | [part] => part
  | part :: parts => part ++ sep ++ join sep parts

/-- The text before the first `sep`, and the text after it if there is one. -/
def cut (sep : Char) : List Char → List Char × Option (List Char)
  | [] => ([], none)
  | c :: rest =>
    if c = sep then ([], some rest)
    else let (before, after) := cut sep rest
      (c :: before, after)

def commas (names : List String) : String := String.intercalate ", " names

def onString (f : List Char → List Char) (s : String) : String := String.ofList (f s.toList)

@[simp] theorem toList_onString (f : List Char → List Char) (s : String) :
    (onString f s).toList = f s.toList := String.toList_ofList

theorem split_ne_nil (sep : Char) (s : List Char) : split sep s ≠ [] := by
  cases s with
  | nil => simp [split]
  | cons c rest =>
    rw [split]
    by_cases h : c = sep
    · simp [h]
    · rw [if_neg h]
      cases split sep rest <;> simp

theorem join_split (sep : Char) (s : List Char) : join [sep] (split sep s) = s := by
  induction s with
  | nil => rfl
  | cons c rest ih =>
    have nonempty := split_ne_nil sep rest
    rw [split]
    by_cases h : c = sep
    · subst h
      cases parts : split c rest with
      | nil => exact absurd parts nonempty
      | cons part more => rw [parts] at ih; simp [join, ih]
    · rw [if_neg h]
      cases parts : split sep rest with
      | nil => exact absurd parts nonempty
      | cons part more =>
        rw [parts] at ih
        cases more <;> simp_all [join]

end RpcBindings.Text
