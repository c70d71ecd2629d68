import RpcBindings.Text.Quoted

/-! Texts of code points. Almost every one is a string; one that holds a surrogate, half of a pair
whose other half is missing, is none, and has no bytes. -/
namespace RpcBindings.Text

inductive CodePoints where
  | string (s : String)
  /-- A row with a surrogate in it. -/
  | broken (codes : List Nat)
  deriving DecidableEq, Repr

/-- The code points between marks: surrogates are written by number. -/
def quotedCodes (codes : List Nat) : List Char :=
  let mark := quoteMark ((codes.filter Nat.isValidChar).map Char.ofNat)
  let escapedCode (code : Nat) : List Char :=
    if code.isValidChar then escaped mark (Char.ofNat code) else '\\' :: 'u' :: hexDigits 4 code
  mark :: codes.flatMap escapedCode ++ [mark]

namespace CodePoints

def ofCodes (codes : List Nat) : CodePoints :=
  if codes.all fun code => decide code.isValidChar then
    string (String.ofList (codes.map Char.ofNat))
  else broken codes

def codes : CodePoints → List Nat
  | string s => s.toList.map Char.toNat
  | broken codes => codes

def append (s t : CodePoints) : CodePoints :=
  match s, t with
  | string s, string t => string (s ++ t)
  | s, t => ofCodes (s.codes ++ t.codes)

instance : Append CodePoints := ⟨append⟩

def singles (s : CodePoints) : List CodePoints := s.codes.map fun code => ofCodes [code]

def quote : CodePoints → String
  | string s => Text.quote s
  | broken codes => String.ofList (quotedCodes codes)

def toString : CodePoints → String
  | string s => s
  | broken codes =>
    String.ofList (codes.map fun code => if code.isValidChar then Char.ofNat code else '\uFFFD')

instance : Coe String CodePoints := ⟨string⟩

@[simp] theorem string_append_string (s t : String) : string s ++ string t = string (s ++ t) := rfl

theorem toNat_ofNat {code : Nat} (valid : code.isValidChar) : (Char.ofNat code).toNat = code := by
  rw [Char.ofNat, dif_pos valid]
  rfl

@[simp] theorem codes_ofCodes (codes : List Nat) : (ofCodes codes).codes = codes := by
  unfold ofCodes
  split
  case isTrue valid =>
    simp only [List.all_eq_true, decide_eq_true_eq] at valid
    simp only [CodePoints.codes, String.toList_ofList, List.map_map]
    exact (List.map_congr_left fun code member => toNat_ofNat (valid code member)).trans
      (List.map_id codes)
  case isFalse => rfl

@[simp] theorem codes_append (s t : CodePoints) : (s ++ t).codes = s.codes ++ t.codes := by
  cases s with
  | string s =>
    cases t with
    | string t => simp [codes]
    | broken t => exact codes_ofCodes _
  | broken s => exact codes_ofCodes _

theorem isValidChar_of_string {s : String} {code : Nat} (member : code ∈ (string s).codes) :
    code.isValidChar := by
  obtain ⟨c, -, rfl⟩ := List.mem_map.mp member
  exact c.valid

theorem ofCodes_codes_string (s : String) : ofCodes (string s).codes = string s := by
  have valid : ((string s).codes.all fun code => decide code.isValidChar) = true := by
    simp only [List.all_eq_true, decide_eq_true_eq]
    exact fun code member => isValidChar_of_string member
  rw [ofCodes, if_pos valid]
  simp [codes, Function.comp_def]

/-- Rows that are put together are strings wherever they can be. -/
theorem append_eq_ofCodes (s t : CodePoints) : s ++ t = ofCodes (s.codes ++ t.codes) := by
  cases s with
  | string s =>
    cases t with
    | string t =>
      rw [string_append_string, ← codes_append, string_append_string, ofCodes_codes_string]
    | broken t => rfl
  | broken s => rfl

end CodePoints

/-- Why a row of code points has no bytes: the surrogates that it holds first, one behind the other,
and their position. -/
structure EncodeFault where
  position : Nat
  surrogates : List Nat
  deriving DecidableEq, Repr

def EncodeFault.message (f : EncodeFault) : String :=
  let place := match f.surrogates with
    | [code] =>
      "character '\\u" ++ String.ofList (hexDigits 4 code) ++ s!"' in position {f.position}"
    | codes => s!"characters in position {f.position}-{f.position + codes.length - 1}"
  "'utf-8' codec can't encode " ++ place ++ ": surrogates not allowed"

/-- The fault of a row of code points that is no string. -/
def EncodeFault.ofCodes (codes : List Nat) : EncodeFault :=
  let before := codes.takeWhile fun code => decide code.isValidChar
  let behind := codes.drop before.length
  ⟨before.length, behind.takeWhile fun code => !decide code.isValidChar⟩

/-- The row of code points as a string, or why it is none. -/
def CodePoints.encodable : CodePoints → Except EncodeFault String
  | string s => .ok s
  | broken codes => .error (.ofCodes codes)

end RpcBindings.Text
