import RpcBindings.Breakdown
import RpcBindings.Template.Token
import RpcBindings.Template.Tree

/-! From the pieces of a template to its parts. Tags open and close blocks, which are kept on a
stack while they are open. -/
namespace RpcBindings.Template

inductive ParseError where
  | expectedExpression (found : String)
  | expectedToken (wanted found : String)
  | endOfTemplate (wanted : String)
  | unexpected (found : String)
  | expectedAttribute
  | expectedTagName
  /-- A loop over a name that is a constant. -/
  | constantTarget
  /-- A loop over the name that loops themselves define. -/
  | loopTarget
  /-- A tag that means nothing where it stands: the tags that the blocks around it wait for, the
  innermost block's first, and the name of that block. -/
  | unknownTag (name : String) (waiting : List (List String)) (block : Option String)
  /-- A block that is open at the end. -/
  | unclosed (waiting : List String) (block : String)
  | unreadable (message : String)
  | broken (cause : Breakdown)
  deriving DecidableEq, Repr

def alternatives (words : List String) : String :=
  String.intercalate " or " (words.map Text.quote)

def ParseError.message : ParseError → String
  | expectedExpression found => "Expected an expression, got " ++ Text.quote found
  | expectedToken wanted found =>
    "expected token " ++ Text.quote wanted ++ ", got " ++ Text.quote found
  | endOfTemplate wanted => "unexpected end of template, expected " ++ Text.quote wanted ++ "."
  | unexpected found => "unexpected " ++ Text.quote found
  | expectedAttribute => "expected name or number"
  | expectedTagName => "tag name expected"
  | constantTarget => "can't assign to 'const'"
  | loopTarget => "Can't assign to special loop variable in for-loop target"
  | unknownTag name waiting block =>
    let hint := match waiting with
      | [] => ""
      | inner :: _ =>
        if waiting.any (·.elem name) then
          " You probably made a nesting mistake. Jinja is expecting this tag, but currently " ++
            "looking for " ++ alternatives inner ++ "."
        else " Jinja was looking for the following tags: " ++ alternatives inner ++ "."
    let innermost := match block with
      | some block =>
        " The innermost block that needs to be closed is " ++ Text.quote block ++ "."
      | none => ""
    "Encountered unknown tag " ++ Text.quote name ++ "." ++ hint ++ innermost
  | unclosed waiting block =>
    "Unexpected end of template. Jinja was looking for the following tags: " ++
      alternatives waiting ++ ". The innermost block that needs to be closed is " ++
      Text.quote block ++ "."
  | unreadable message => message
  | broken cause => cause.message

def Bracket.ending : Bracket → String
  | print => "end of print statement"
  | tag => "end of statement block"

/-- The tokens of a bracket that are still to be read, and how the bracket ends. -/
structure Input where
  kind : Bracket
  ending : Ending
  tokens : List Token

namespace Input

def found (i : Input) : String :=
  match i.tokens with
  | .name s :: _ => s
  | .text _ :: _ => "string"
  | .number _ :: _ => "integer"
  | .symbol s :: _ => s
  | [] => if i.ending = .missing then "end of template" else i.kind.ending

def withTokens (i : Input) (tokens : List Token) : Input := { i with tokens }

/-- A complaint about the next token, or about what is there instead of one. -/
def complaint (i : Input) (e : ParseError) : ParseError :=
  match i.tokens, i.ending with
  | [], .unreadable message => .unreadable message
  | _, _ => e

def missing (i : Input) (wanted : String) : ParseError :=
  i.complaint (if i.tokens.isEmpty && i.ending = .missing then .endOfTemplate wanted
    else .expectedToken wanted i.found)

/-- A complaint that the next token cannot stand here. -/
def misplaced (i : Input) : ParseError := i.complaint (.unexpected i.found)

def atEnd (i : Input) : Bool := i.tokens.isEmpty && i.ending = .closed

def finish (i : Input) : Except ParseError Unit :=
  if i.atEnd then .ok () else .error (i.missing i.kind.ending)

end Input

/-- The quoted texts that tokens start with, taken together, and the tokens behind them. -/
def spanTexts : List Token → Text.CodePoints × List Token
  | .text s :: rest =>
    let (more, rest) := spanTexts rest
    (s ++ more, rest)
  | rest => (.string "", rest)

mutual

/-- An expression: alternatives of conjunctions. The fuel bounds the nesting. -/
def parseOr : (fuel : Nat) → Input → Except ParseError (Expr × Input)
  | 0, i => .error i.misplaced
  | fuel + 1, i => do
    let (left, i) ← parseAnd fuel i
    match i.tokens with
    | .name "or" :: rest =>
      let (right, i) ← parseOr fuel (i.withTokens rest)
      return (.or left right, i)
    | _ => return (left, i)

def parseAnd : (fuel : Nat) → Input → Except ParseError (Expr × Input)
  | 0, i => .error i.misplaced
  | fuel + 1, i => do
    let (left, i) ← parseNot fuel i
    match i.tokens with
    | .name "and" :: rest =>
      let (right, i) ← parseAnd fuel (i.withTokens rest)
      return (.and left right, i)
    | _ => return (left, i)

def parseNot : (fuel : Nat) → Input → Except ParseError (Expr × Input)
  | 0, i => .error i.misplaced
  | fuel + 1, i =>
    match i.tokens with
    | .name "not" :: rest => do
      let (e, i) ← parseNot fuel (i.withTokens rest)
      return (.not e, i)
    | _ => do
      let (left, i) ← parsePrimary fuel i
      match i.tokens with
      | .symbol "==" :: rest =>
        let (right, i) ← parsePrimary fuel (i.withTokens rest)
        return (.equal left right, i)
      | .symbol "!=" :: rest =>
        let (right, i) ← parsePrimary fuel (i.withTokens rest)
        return (.not (.equal left right), i)
      | _ => return (left, i)

/-- A name, a literal or an expression in parentheses, with what follows it. -/
def parsePrimary : (fuel : Nat) → Input → Except ParseError (Expr × Input)
  | 0, i => .error i.misplaced
  | fuel + 1, i =>
    match i.tokens with
    | .name "true" :: rest | .name "True" :: rest =>
      parsePostfix fuel (.literal (.bool true)) (i.withTokens rest)
    | .name "false" :: rest | .name "False" :: rest =>
      parsePostfix fuel (.literal (.bool false)) (i.withTokens rest)
    | .name "none" :: rest | .name "None" :: rest =>
      parsePostfix fuel (.literal .null) (i.withTokens rest)
    | .name s :: rest => parsePostfix fuel (.var s) (i.withTokens rest)
    | .text s :: rest =>
      let (more, rest) := spanTexts rest
      parsePostfix fuel (.literal (.text (s ++ more))) (i.withTokens rest)
    | .number n :: rest => parsePostfix fuel (.literal (.int n)) (i.withTokens rest)
    | .symbol "(" :: rest => do
      let (e, i) ← parseOr fuel (i.withTokens rest)
      match i.tokens with
      | .symbol ")" :: rest => parsePostfix fuel e (i.withTokens rest)
      | _ => throw (i.missing ")")
    | _ => .error i.misplaced

/-- Attributes and calls behind an expression. -/
def parsePostfix : (fuel : Nat) → Expr → Input → Except ParseError (Expr × Input)
  | 0, e, i => .ok (e, i)
  | fuel + 1, e, i =>
    match i.tokens with
    | .symbol "." :: .name s :: rest => parsePostfix fuel (.member e s) (i.withTokens rest)
    | .symbol "." :: rest => .error ((i.withTokens rest).complaint .expectedAttribute)
    | .symbol "(" :: rest => do
      let (argument, i) ← parseOr fuel (i.withTokens rest)
      match i.tokens with
      | .symbol ")" :: rest => parsePostfix fuel (.call e argument) (i.withTokens rest)
      | _ => throw (i.missing ")")
    | _ => .ok (e, i)

end

def parseExpr (i : Input) : Except ParseError (Expr × Input) :=
  if i.atEnd then .error (.expectedExpression i.found)
  else parseOr (6 * i.tokens.length + 6) i

def parseWhole (i : Input) : Except ParseError Expr := do
  let (e, i) ← parseExpr i
  i.finish
  return e

/-- An open block: the parts before it, and what has been read of it. Parts are kept in reverse. -/
inductive Frame where
  /-- A choice in one of its tested branches; `branches` are the complete ones before it. -/
  | branch (outer : List Node) (branches : List (Expr × List Node)) (test : Expr)
  /-- A choice in its last branch. -/
  | otherwise (outer : List Node) (branches : List (Expr × List Node))
  | loop (outer : List Node) (var : String) (source : Expr)
  /-- A loop in the part for no items. -/
  | loopEmpty (outer : List Node) (var : String) (source : Expr) (body : List Node)

namespace Frame

/-- The tags that may end the part of the block that is open. -/
def waiting : Frame → List String
  | branch .. => ["elif", "else", "endif"]
  | otherwise .. => ["endif"]
  | loop .. => ["endfor", "else"]
  | loopEmpty .. => ["endfor"]

def block : Frame → String
  | branch .. | otherwise .. => "if"
  | loop .. | loopEmpty .. => "for"

end Frame

/-- A choice among branches, the last one given first. -/
def choiceOf (no : List Node) : List (Expr × List Node) → List Node
  | [] => no
  | (test, yes) :: earlier => choiceOf [.choice test yes no] earlier

def constants : List String := ["true", "True", "false", "False", "none", "None"]

/-- The target of a loop, which is one name, and the expression it runs over. -/
def parseLoop (i : Input) : Except ParseError (String × Expr) := do
  match i.tokens with
  | .name "in" :: _ => throw (.expectedExpression "in")
  | .name var :: .name "in" :: rest =>
    if constants.contains var then throw .constantTarget
    let source ← parseWhole (i.withTokens rest)
    return (var, source)
  | .name var :: rest =>
    throw (if constants.contains var then .constantTarget else (i.withTokens rest).missing "in")
  | [] => throw (if i.atEnd then .expectedExpression i.found else i.misplaced)
  | _ => throw i.misplaced

/-- What a tag does to the open blocks and the parts read so far. -/
def applyTag (stack : List Frame) (nodes : List Node) (name : String) (i : Input) :
    Except ParseError (List Frame × List Node) := do
  match stack, name with
  | .branch outer branches test :: stack, "elif" =>
    let next ← parseWhole i
    return (.branch outer ((test, nodes.reverse) :: branches) next :: stack, [])
  | .branch outer branches test :: stack, "else" =>
    i.finish
    return (.otherwise outer ((test, nodes.reverse) :: branches) :: stack, [])
  | .branch outer branches test :: stack, "endif" =>
    i.finish
    return (stack, choiceOf [] ((test, nodes.reverse) :: branches) ++ outer)
  | .otherwise outer branches :: stack, "endif" =>
    i.finish
    return (stack, choiceOf nodes.reverse branches ++ outer)
  | .loop outer var source :: stack, "else" =>
    i.finish
    return (.loopEmpty outer var source nodes.reverse :: stack, [])
  | .loop outer var source :: stack, "endfor" =>
    i.finish
    return (stack, .loop var source nodes.reverse [] :: outer)
  | .loopEmpty outer var source body :: stack, "endfor" =>
    i.finish
    return (stack, .loop var source body nodes.reverse :: outer)
  | _, "if" =>
    let test ← parseWhole i
    return (.branch nodes [] test :: stack, [])
  | _, "for" =>
    let (var, source) ← parseLoop i
    return (.loop nodes var source :: stack, [])
  | _, _ => throw (.unknownTag name (stack.map (·.waiting)) (stack.head?.map (·.block)))

/-- Puts pieces together, with the blocks that are open and the parts read so far in reverse. -/
def assemble (stack : List Frame) (nodes : List Node) :
    List Piece → Except ParseError (List Node)
  | [] =>
    match stack with
    | [] => .ok nodes.reverse
    | frame :: _ => .error (.unclosed frame.waiting frame.block)
  | .text s :: rest => assemble stack (.text s :: nodes) rest
  | .bracket .print tokens ending :: rest => do
    let e ← parseWhole ⟨.print, ending, tokens⟩
    assemble stack (.print e :: nodes) rest
  | .bracket .tag tokens ending :: rest =>
    match tokens with
    | .name name :: tokens => do
      let (stack, nodes) ← applyTag stack nodes name ⟨.tag, ending, tokens⟩
      assemble stack nodes rest
    | _ => .error ((Input.mk .tag ending tokens).complaint .expectedTagName)
  | .openComment :: _ => .error (.unreadable "Missing end of comment tag")

mutual

/-- Whether a part loops over the name that loops themselves define. -/
def Node.hidesLoop : Node → Bool
  | .text _ | .print _ => false
  | .choice _ yes no => anyHidesLoop yes || anyHidesLoop no
  | .loop var _ body empty => var == "loop" || anyHidesLoop body || anyHidesLoop empty

def anyHidesLoop : List Node → Bool
  | [] => false
  | node :: rest => node.hidesLoop || anyHidesLoop rest

end

def parse (source : List Char) : Except ParseError (List Node) := do
  let nodes ← assemble [] [] (pieces source)
  if anyHidesLoop nodes then throw .loopTarget
  return nodes

end RpcBindings.Template
