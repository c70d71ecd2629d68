import RpcBindings.Text.Markup
import RpcBindings.Text.Wrap

/-! Texts, tables and panels for a terminal of a fixed width. All lines of a table or panel take as
many columns. -/
namespace RpcBindings.Terminal

open Text

def screenWidth : Nat := 160

def printed (s : String) : List String :=
  (wrap .fold screenWidth (plain s)).map String.ofList

/-- The characters of a horizontal line: at its ends, along the columns, and between them. -/
structure Rail where
  left : Char
  fill : Char
  divider : Char
  right : Char

/-- The lines of a table: above it, around its rows, below its header, and below it. -/
structure Frame where
  top : Rail
  row : Rail
  rule : Rail
  bottom : Rail

namespace Frame

def simple : Frame where
  top := ⟨' ', ' ', ' ', ' '⟩
  row := ⟨' ', ' ', ' ', ' '⟩
  rule := ⟨' ', '─', '─', ' '⟩
  bottom := ⟨' ', ' ', ' ', ' '⟩

def rounded : Frame where
  top := ⟨'╭', '─', '┬', '╮'⟩
  row := ⟨'│', ' ', '│', '│'⟩
  rule := ⟨'├', '─', '┼', '┤'⟩
  bottom := ⟨'╰', '─', '┴', '╯'⟩

end Frame

def Rail.line (rail : Rail) (cells : List (List Char)) : List Char :=
  let padded := cells.map fun cell => rail.fill :: cell ++ [rail.fill]
  rail.left :: join [rail.divider] padded ++ [rail.right]

/-- A line without texts over columns of the given widths. -/
def Rail.bare (rail : Rail) (widths : List Nat) : List Char :=
  rail.line (widths.map fun columns => List.replicate columns rail.fill)

/-- A column: its header, and whether its cells stand at its right end. -/
structure Column where
  header : String
  atRight : Bool := false

structure Table where
  title : String
  frame : Frame
  columns : List Column
  rows : List (List String)

namespace Table

/-- The texts of a column, its header first. -/
def texts (t : Table) (index : Nat) : List (List Char) :=
  (t.columns.map Column.header :: t.rows).map fun row => plain (row.getD index "")

/-- Where a text breaks into lines when its width is taken: at line feeds, at separators of
information, and at the breaks of lines and paragraphs of other scripts. -/
def isBreak (c : Char) : Bool :=
  c == '\n' || ('\x1c' ≤ c && c ≤ '\x1e') || c == '\u0085' || c == '\u2028' || c == '\u2029'

/-- How many columns the widest line of a text takes; tabs take none. -/
def widest (s : List Char) : Nat :=
  let unified := s.map fun c => if isBreak c then '\n' else c
  ((split '\n' unified).map width).foldl max 0

/-- The width that a column would have by its widest text. -/
def naturalWidth (t : Table) (index : Nat) : Nat :=
  max 1 (((t.texts index).map widest).foldl max 0)

/-- The widths of all columns. The first one gives way if a row is wider than the screen. -/
def widths (t : Table) : List Nat :=
  let natural := (List.range t.columns.length).map t.naturalWidth
  let others := natural.tail.foldl (· + ·) 0
  let room := screenWidth - (3 * natural.length + 1) - others
  match natural with
  | [] => []
  | first :: rest => min first room :: rest

def cell (column : Column) (columns : Nat) (text : String) : List (List Char) :=
  (wrap .ellipsis columns (plain text)).map fun line =>
    if column.atRight then padStart columns (trimEnd line) else padEnd columns line

/-- A row in its frame; its cells begin on the same line. -/
def lines (t : Table) (row : List String) : List (List Char) :=
  let cells := ((t.columns.zip t.widths).zip row).map fun ((column, columns), text) =>
    (cell column columns text, columns)
  let height := (cells.map fun entry => entry.1.length).foldl max 0
  (List.range height).map fun index => t.frame.row.line (cells.map fun (texts, columns) =>
    texts.getD index (List.replicate columns ' '))

/-- The lines of the table, its title centred above it. -/
def render (t : Table) : List String :=
  let top := t.frame.top.bare t.widths
  let title := (wrap .fold (width top) (plain t.title)).map fun line =>
    centred (width top) (trimEnd line)
  let body := [top] ++ t.lines (t.columns.map Column.header) ++ [t.frame.rule.bare t.widths] ++
    t.rows.flatMap t.lines ++ [t.frame.bottom.bare t.widths]
  (title ++ body).map String.ofList

end Table

/-- Lines in a box as wide as the screen, with a title in its upper edge. -/
def panel (title : String) (lines : List String) : List String :=
  let shown := ' ' :: title.toList ++ [' ']
  let spare := screenWidth - 2 - width shown
  let dashes (n : Nat) := List.replicate n '─'
  let top := '╭' :: dashes (spare / 2) ++ shown ++ dashes (spare - spare / 2) ++ ['╮']
  let inner := lines.map fun line =>
    '│' :: ' ' :: padEnd (screenWidth - 4) line.toList ++ [' ', '│']
  let bottom := '╰' :: dashes (screenWidth - 2) ++ ['╯']
  ([top] ++ inner ++ [bottom]).map String.ofList

end RpcBindings.Terminal
