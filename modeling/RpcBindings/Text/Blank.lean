/-! Blank characters, and texts without them at their ends. -/
namespace RpcBindings.Text

/-- Whether a character is white space: the Unicode separators and line breaks, the tab and its
neighbours, and the four information separators. Zero-width characters are not. -/
def isBlank (c : Char) : Bool :=
  let code := c.toNat
  (0x9 ≤ code && code ≤ 0xD) || (0x1C ≤ code && code ≤ 0x20) || code == 0x85 || code == 0xA0 ||
    code == 0x1680 || (0x2000 ≤ code && code ≤ 0x200A) || code == 0x2028 || code == 0x2029 ||
    code == 0x202F || code == 0x205F || code == 0x3000

/-- The text from its first non-blank character on. -/
def trimStart (s : List Char) : List Char := s.dropWhile isBlank

/-- The text up to its last non-blank character. -/
def trimEnd : List Char → List Char
  | [] => []
  | c :: rest =>
    match trimEnd rest with
    | [] => if isBlank c then [] else [c]
    | d :: kept => c :: d :: kept

/-- The text between its first and last non-blank characters. -/
def trim (s : List Char) : List Char := trimEnd (trimStart s)

end RpcBindings.Text
