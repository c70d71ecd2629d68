import RpcBindings.Schema.Basic

/-! How a target language writes the types of fields and their default values. Kinds that a table
does not list fall back to a type for anything and to the null literal. -/
namespace RpcBindings

open Schema

/-- A text with at most one gap to fill. -/
inductive Pattern where
  | constant (text : String)
  | around (before after : String)
  deriving DecidableEq, Repr

namespace Pattern

def fill (p : Pattern) (name : String) : String :=
  match p with
  | constant text => text
  | around before after => before ++ name ++ after

/-- Reads a pattern in which a pair of braces marks the gap and a doubled brace stands for itself;
the answer is the text before the gap, and the text after it if there is one. -/
def pieces : List Char → List Char × Option (List Char)
  | [] => ([], none)
  | '\x7b' :: '\x7d' :: rest =>
    let (before, after) := pieces rest
    ([], some (before ++ after.getD []))
  | '\x7b' :: '\x7b' :: rest => let (before, after) := pieces rest; ('\x7b' :: before, after)
  | '\x7d' :: '\x7d' :: rest => let (before, after) := pieces rest; ('\x7d' :: before, after)
  | c :: rest => let (before, after) := pieces rest; (c :: before, after)

def ofString (s : String) : Pattern :=
  match pieces s.toList with
  | (text, none) => constant (String.ofList text)
  | (before, some after) => around (String.ofList before) (String.ofList after)

end Pattern

/-- Texts for groups of kinds; where groups overlap the last one counts. -/
abbrev KindTexts := List (List Kind × String)

def KindTexts.get? (texts : KindTexts) (kind : Kind) : Option String :=
  (texts.reverse.find? fun group => kind ∈ group.1).map (·.2)

structure TypeTable where
  scalarTypes : KindTexts
  defaultValues : KindTexts
  listType : Pattern
  emptyList : String
  anyType : String
  nullLiteral : String
  messageDefault : Pattern := .around "" "()"
  /-- The constant that stands in for the first one of an enum without constants. -/
  enumFallback : String := "UNKNOWN"
  deriving DecidableEq, Repr

namespace TypeTable

/-- The message that a field of message kind refers to. -/
def messageOf? (f : FieldDecl) : Option MessageRef :=
  if f.kind = some .message ∨ f.kind = some .group then f.message else none

def enumOf? (f : FieldDecl) : Option EnumDecl := if f.kind = some .enum then f.enum else none

def elementType (t : TypeTable) (f : FieldDecl) : String :=
  match enumOf? f, messageOf? f with
  | some e, _ => e.name
  | none, some m => m.name
  | none, none => (f.kind.bind t.scalarTypes.get?).getD t.anyType

def fieldType (t : TypeTable) (f : FieldDecl) : String :=
  if f.isList then t.listType.fill (t.elementType f) else t.elementType f

/-- The default of an enum: its first constant. -/
def enumDefault (t : TypeTable) (e : EnumDecl) : String :=
  match e.values with
  | first :: _ => e.name ++ "." ++ first.name
  | [] => e.name ++ "." ++ t.enumFallback

def defaultValue (t : TypeTable) (f : FieldDecl) : String :=
  if f.isList then t.emptyList
  else match enumOf? f, messageOf? f with
    | some e, _ => t.enumDefault e
    | none, some m => t.messageDefault.fill m.name
    | none, none => (f.kind.bind t.defaultValues.get?).getD t.nullLiteral

/-- The scalar kinds by name with their types, in the order of the kinds. -/
def describe (t : TypeTable) : List (String × String) :=
  Kind.all.filterMap fun kind => (t.scalarTypes.get? kind).map fun type => (kind.name, type)

end TypeTable

/-! ### Groups of kinds that languages treat alike -/

def signed32 : List Kind := [.int32, .sint32, .sfixed32]

def signed64 : List Kind := [.int64, .sint64, .sfixed64]

def unsigned32 : List Kind := [.uint32, .fixed32]

def unsigned64 : List Kind := [.uint64, .fixed64]

end RpcBindings
