import RpcBindings.Text.WidthTable

/-! How many columns of a terminal a text takes. Most characters take one, ideographs and pictures
two, and marks none. A joiner puts the character behind it into the columns of the one before it,
and a selector can give a character one more column. -/
namespace RpcBindings.Text

/-- Whether a code point lies in one of some ranges. -/
def within (ranges : Array (Nat × Nat)) (c : Char) : Bool :=
  ranges.any fun range => range.1 ≤ c.toNat && c.toNat ≤ range.2

def columnsOf (c : Char) : Nat :=
  if within zeroWidthRanges c then 0 else if within doubleWidthRanges c then 2 else 1

/-- The character that joins the one behind it to the one before it. -/
def joiner : Char := '\u200D'

/-- The character that asks for the form of the one before it as a picture. -/
def selector : Char := '\uFE0F'

/-- The columns of a text that has been measured, and the character that a selector would widen. -/
structure Measured where
  columns : Nat := 0
  last : Option Char := none

namespace Measured

/-- One more column for the last character if a selector gives it one. -/
def widened (m : Measured) : Measured :=
  { columns := m.columns + if m.last.any (within widenedRanges) then 1 else 0 }

def add (m : Measured) (c : Char) : Measured :=
  match columnsOf c with
  | 0 => m
  | columns => ⟨m.columns + columns, some c⟩

def addAll (m : Measured) : List Char → Measured
  | [] => m
  | [c] => if c = joiner then m else if c = selector then m.widened else m.add c
  | c :: d :: rest =>
    if c = joiner then m.addAll rest
    else if c = selector then m.widened.addAll (d :: rest)
    else (m.add c).addAll (d :: rest)

end Measured

def width (s : List Char) : Nat := (Measured.addAll {} s).columns

/-- Characters that stay together, and how many columns they take. -/
structure Cluster where
  text : List Char
  columns : Nat
  deriving DecidableEq, Repr

namespace Cluster

def extended (k : Cluster) (more : List Char) (columns : Nat) : Cluster :=
  ⟨k.text ++ more, k.columns + columns⟩

/-- The clusters of a text behind the cluster `k`; `last` is the character that a selector would
widen. -/
def split (k : Cluster) (last : Option Char) : List Char → List Cluster
  | [] => [k]
  | [c] =>
    if c = selector ∧ last.any (within widenedRanges) then [k.extended [c] 1]
    else if columnsOf c = 0 then [k.extended [c] 0]
    else [k, ⟨[c], columnsOf c⟩]
  | c :: d :: rest =>
    if c = joiner then split (k.extended [c, d] 0) last rest
    else if c = selector ∧ last.any (within widenedRanges) then
      split (k.extended [c] 1) none (d :: rest)
    else if columnsOf c = 0 then split (k.extended [c] 0) last (d :: rest)
    else k :: split ⟨[c], columnsOf c⟩ (some c) (d :: rest)

end Cluster

def clusters : List Char → List Cluster
  | [] => []
  | c :: rest => Cluster.split ⟨[c], columnsOf c⟩ (if columnsOf c = 0 then none else some c) rest

/-- The clusters that fit into some number of columns; a blank stands for the half of one that does
not. -/
def crop (columns : Nat) : List Cluster → List Char
  | [] => []
  | k :: rest =>
    if columns = 0 then []
    else if columns < k.columns then [' ']
    else k.text ++ crop (columns - k.columns) rest

/-- A text with blanks behind it up to some number of columns. -/
def padEnd (columns : Nat) (s : List Char) : List Char :=
  s ++ List.replicate (columns - width s) ' '

/-- A text with blanks before it up to some number of columns. -/
def padStart (columns : Nat) (s : List Char) : List Char :=
  List.replicate (columns - width s) ' ' ++ s

/-- A text in the middle of some number of columns; an odd blank goes behind it. -/
def centred (columns : Nat) (s : List Char) : List Char :=
  padEnd columns (List.replicate ((columns - width s) / 2) ' ' ++ s)

end RpcBindings.Text
