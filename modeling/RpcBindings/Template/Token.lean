import RpcBindings.Text.Blank
import RpcBindings.Text.Escapes
import RpcBindings.Text.Newline

/-! The pieces of a template: text, and between braces expressions to print and tags. A line break
right after a tag belongs to the tag, and so do the blanks between the start of a line and a tag.
The reader is an automaton that takes one character at a time. -/
namespace RpcBindings.Template

inductive Token where
  | name (s : String)
  | text (s : Text.CodePoints)
  | number (n : Nat)
  | symbol (s : String)
  deriving DecidableEq, Repr

inductive Bracket where
  | print
  | tag
  deriving DecidableEq, Repr

inductive Ending where
  | closed
  /-- The template ends inside the bracket. -/
  | missing
  /-- Something that is no token. -/
  | unreadable (message : String)
  deriving DecidableEq, Repr

/-- A part of a template. A bracket that is not closed is the last piece. -/
inductive Piece where
  | text (s : List Char)
  | bracket (kind : Bracket) (tokens : List Token) (ending : Ending)
  /-- A comment that the template does not close. -/
  | openComment
  deriving DecidableEq, Repr

/-- A token that has begun, its characters in reverse. -/
inductive Pending where
  | nothing
  | name (letters : List Char)
  | number (digits : List Char)
  /-- A symbol that the next character may extend, or that may begin the end of the bracket. -/
  | symbol (c : Char)
  /-- A quoted text with its mark and the position of that mark. -/
  | text (mark : Char) (start : Nat) (letters : List Char)
  /-- A quoted text behind a backslash. -/
  | escape (mark : Char) (start : Nat) (letters : List Char)
  deriving DecidableEq, Repr

/-- Between the braces: the tokens read, in reverse, the marks that will close the open ones, and
the token that has begun. -/
structure Inside where
  kind : Bracket
  tokens : List Token
  opened : List Char
  pending : Pending
  deriving DecidableEq, Repr

/-- Where the reader is. Text is kept in reverse, and `fresh` tells whether it begins at the start
of a line. -/
inductive Mode where
  | outside (before : List Char) (fresh : Bool)
  /-- In text, behind an opening brace. -/
  | brace (before : List Char) (fresh : Bool)
  | comment
  /-- In a comment, behind a character that may begin its end. -/
  | commentMark
  | inside (bracket : Inside)
  /-- Right behind a tag or a comment. -/
  | behind
  | stopped
  deriving DecidableEq, Repr

/-- The pieces read so far in reverse, and where the reader is. -/
structure Reader where
  pieces : List Piece
  position : Nat
  mode : Mode
  deriving DecidableEq, Repr

def isNameChar (c : Char) : Bool := c.isAlphanum || c == '_' || 0x80 ≤ c.toNat

def digitsValue (digits : List Char) : Nat :=
  digits.foldl (fun n c => n * 10 + (c.toNat - '0'.toNat)) 0

/-- Text before a tag, given in reverse: blanks between the start of its last line and the tag are
not kept. -/
def beforeTag (before : List Char) (fresh : Bool) : List Char :=
  let lastLine := before.takeWhile (· != '\n')
  let starts := fresh || lastLine.length < before.length
  if starts && lastLine.all Text.isBlank then (before.drop lastLine.length).reverse
  else before.reverse

def isSymbol (c : Char) : Bool :=
  ['+', '-', '/', '*', '%', '~', '[', ']', '(', ')', '\x7b', '\x7d', '.', ':', '|', ',', ';', '<',
    '>', '=', '!'].elem c

def isDoubleSymbol (c d : Char) : Bool :=
  [('=', '='), ('!', '='), ('<', '='), ('>', '='), ('/', '/'), ('*', '*')].elem (c, d)

def closing? : Char → Option Char
  | '(' => some ')'
  | '[' => some ']'
  | '\x7b' => some '\x7d'
  | _ => none

def quoteChar (c : Char) : String := Text.quote (String.singleton c)

/-- The marks still to come after one more character, or why it cannot stand there. -/
def nest (opened : List Char) (c : Char) : Except String (List Char) :=
  match closing? c, opened with
  | some close, _ => .ok (close :: opened)
  | none, expected :: rest =>
    if c = ')' ∨ c = ']' ∨ c = '\x7d' then
      if expected = c then .ok rest
      else .error ("unexpected " ++ quoteChar c ++ ", expected " ++ quoteChar expected)
    else .ok opened
  | none, [] =>
    if c = ')' ∨ c = ']' ∨ c = '\x7d' then .error ("unexpected " ++ quoteChar c) else .ok []

/-- The complaint about a character that no token begins with. -/
def strange (c : Char) (position : Nat) : String :=
  "unexpected char " ++ quoteChar c ++ s!" at {position}"

namespace Inside

/-- A step that ends the reading of the bracket, the tokens before it being kept. -/
def fail {α : Type} (b : Inside) (message : String) : Except (List Token × String) α :=
  .error (b.tokens, message)

/-- The bracket with the token that has begun finished. -/
def settle (b : Inside) : Except (List Token × String) Inside :=
  match b.pending with
  | .nothing => .ok b
  | .name letters =>
    .ok { b with tokens := .name (String.ofList letters.reverse) :: b.tokens, pending := .nothing }
  | .number digits =>
    .ok { b with tokens := .number (digitsValue digits.reverse) :: b.tokens, pending := .nothing }
  | .symbol c =>
    match nest b.opened c with
    | .ok opened => .ok { b with
        tokens := .symbol (String.singleton c) :: b.tokens
        opened := opened
        pending := .nothing }
    | .error message => b.fail message
  | .text mark start _ | .escape mark start _ => b.fail (strange mark start)

/-- The bracket with the quoted text that has begun finished. -/
def settleText (b : Inside) (letters : List Char) : Except (List Token × String) Inside :=
  match Text.unescape letters.reverse with
  | .ok text => .ok { b with tokens := .text text :: b.tokens, pending := .nothing }
  | .error fault => b.fail fault.message

def begin (b : Inside) (c : Char) (position : Nat) : Except (List Token × String) Inside :=
  if Text.isBlank c then .ok b
  else if c.isDigit then .ok { b with pending := .number [c] }
  else if isNameChar c then .ok { b with pending := .name [c] }
  else if c = '\x27' ∨ c = '\x22' then .ok { b with pending := .text c position [] }
  else if isSymbol c then .ok { b with pending := .symbol c }
  else b.fail (strange c position)

def ends (b : Inside) (c : Char) : Bool :=
  c == '\x7d' && b.opened.isEmpty &&
    match b.kind with
    | .print => b.pending == .symbol '\x7d'
    | .tag => b.pending == .symbol '%'

/-- The bracket after one more character that does not end it. -/
def next (b : Inside) (c : Char) (position : Nat) : Except (List Token × String) Inside :=
  match b.pending with
  | .text mark start letters =>
    if c = mark then b.settleText letters
    else if c = '\\' then .ok { b with pending := .escape mark start letters }
    else .ok { b with pending := .text mark start (c :: letters) }
  | .escape mark start letters =>
    .ok { b with pending := .text mark start (c :: '\\' :: letters) }
  | .name letters =>
    if isNameChar c then .ok { b with pending := .name (c :: letters) }
    else do (← b.settle).begin c position
  | .number digits =>
    if c.isDigit then .ok { b with pending := .number (c :: digits) }
    else do (← b.settle).begin c position
  | .symbol first =>
    if isDoubleSymbol first c then
      .ok { b with tokens := .symbol (String.ofList [first, c]) :: b.tokens, pending := .nothing }
    else do (← b.settle).begin c position
  | .nothing => b.begin c position

end Inside

namespace Reader

def addText (r : Reader) (s : List Char) : Reader :=
  if s.isEmpty then r else { r with pieces := .text s :: r.pieces }

def move (r : Reader) (mode : Mode) : Reader := { r with position := r.position + 1, mode }

/-- The reader behind a last piece. -/
def stop (r : Reader) (piece : Piece) : Reader :=
  { r with pieces := piece :: r.pieces, mode := .stopped }

def step (r : Reader) (c : Char) : Reader :=
  match r.mode with
  | .outside before fresh =>
    r.move (if c = '\x7b' then .brace before fresh else .outside (c :: before) fresh)
  | .brace before fresh =>
    if c = '%' then
      (r.addText (beforeTag before fresh)).move (.inside ⟨.tag, [], [], .nothing⟩)
    else if c = '\x7b' then
      (r.addText before.reverse).move (.inside ⟨.print, [], [], .nothing⟩)
    else if c = '#' then (r.addText (beforeTag before fresh)).move .comment
    else r.move (.outside (c :: '\x7b' :: before) fresh)
  | .comment => r.move (if c = '#' then .commentMark else .comment)
  | .commentMark =>
    r.move (if c = '\x7d' then .behind else if c = '#' then .commentMark else .comment)
  | .behind =>
    r.move (if c = '\n' then .outside [] true
      else if c = '\x7b' then .brace [] false
      else .outside [c] false)
  | .inside b =>
    if b.ends c then
      let done : Piece := .bracket b.kind b.tokens.reverse .closed
      { r with pieces := done :: r.pieces }.move
        (match b.kind with
          | .print => .outside [] false
          | .tag => .behind)
    else match b.next c r.position with
      | .ok b => r.move (.inside b)
      | .error (tokens, message) =>
        r.stop (.bracket b.kind tokens.reverse (.unreadable message))
  | .stopped => r

/-- The pieces once the template ends. -/
def finish (r : Reader) : List Piece :=
  let last := match r.mode with
    | .outside before _ => r.addText before.reverse
    | .brace before _ => r.addText ('\x7b' :: before).reverse
    | .comment | .commentMark => r.stop .openComment
    | .inside b =>
      match b.settle with
      | .ok b => r.stop (.bracket b.kind b.tokens.reverse .missing)
      | .error (tokens, message) =>
        r.stop (.bracket b.kind tokens.reverse (.unreadable message))
    | .behind | .stopped => r
  last.pieces.reverse

end Reader

/-- The pieces of a template; line ends of all kinds count as one. -/
def pieces (source : List Char) : List Piece :=
  ((Text.unifyNewlines source).foldl Reader.step ⟨[], 0, .outside [] true⟩).finish

end RpcBindings.Template
