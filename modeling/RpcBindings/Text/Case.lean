import RpcBindings.Text.CaseTable

/-! Lowercase and uppercase of characters and texts. A character may map to several; only the
lowercase form of a sigma depends on the characters around it. -/
namespace RpcBindings.Text

/-- Whether a character has the property Uppercase. -/
def isUpper (c : Char) : Bool := uppercaseRuns.any (·.contains c.toNat)

/-- Looks a character up, first among the mappings to several characters. -/
def recase (expansions : List (Nat × List Nat)) (shifts : List ShiftRun) (c : Char) : List Char :=
  match expansions.lookup c.toNat with
  | some codes => codes.map Char.ofNat
  | none =>
    match shifts.find? (·.domain.contains c.toNat) with
    | some run => [Char.ofNat (c.toNat + run.offset).toNat]
    | none => [c]

/-- The lowercase form of one character. -/
def lowerOf (c : Char) : List Char := recase lowerExpansions lowerShifts c

def upperOf (c : Char) : List Char := recase upperExpansions upperShifts c

/-- Whether the first character that is not case-ignorable is a letter with a case. -/
def startsCased (s : List Char) : Bool :=
  match s.dropWhile fun c => caseIgnorableRuns.any (·.contains c.toNat) with
  | [] => false
  | c :: _ => casedRuns.any (·.contains c.toNat)

/-- Lowercase of a text that follows the reversed text `before`: a capital sigma after a cased
letter and before none takes its final form. -/
def lowerAfter (before : List Char) : List Char → List Char
  | [] => []
  | c :: rest =>
    let here := if c = 'Σ' then [if startsCased before && !startsCased rest then 'ς' else 'σ']
      else lowerOf c
    here ++ lowerAfter (c :: before) rest

def lower (s : List Char) : List Char := lowerAfter [] s

def upper (s : List Char) : List Char := s.flatMap upperOf

end RpcBindings.Text
