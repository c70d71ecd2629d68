import RpcBindings.Options
import RpcBindings.Text.Digit

/-! The arguments of the command line. First each argument is told apart as an option or not, then
they are taken up from left to right; an option may be given by any start of its name that fits no
other, and options of one letter may share a dash. -/
namespace RpcBindings.Command

inductive Flag where
  | help | language | output | config | file | noRuntime | dryRun | verbose | quiet
  | listLanguages | languageInfo | version
  deriving DecidableEq, Repr

namespace Flag

/-- All options in the order in which they are listed. -/
def all : List Flag := [
  help, language, output, config, file, noRuntime, dryRun, verbose, quiet, listLanguages,
  languageInfo, version]

def spellings : Flag → List String
  | help => ["-h", "--help"]
  | language => ["--language", "-l"]
  | output => ["--output", "-o"]
  | config => ["--config"]
  | file => ["--file"]
  | noRuntime => ["--no-runtime"]
  | dryRun => ["--dry-run"]
  | verbose => ["--verbose", "-v"]
  | quiet => ["--quiet", "-q"]
  | listLanguages => ["--list-languages"]
  | languageInfo => ["--language-info"]
  | version => ["--version"]

def takesValue : Flag → Bool
  | language | output | config | file | languageInfo => true
  | help | noRuntime | dryRun | verbose | quiet | listLanguages | version => false

def title (flag : Flag) : String := String.intercalate "/" flag.spellings

def table : List (List Char × Flag) :=
  all.flatMap fun flag => flag.spellings.map fun spelling => (spelling.toList, flag)

end Flag

inductive UsageError where
  | ambiguous (argument : String) (candidates : List String)
  | missingValue (flag : Flag)
  | unexpectedValue (flag : Flag) (value : String)
  /-- Two options that exclude each other, the later one first. -/
  | conflict (flag earlier : Flag)
  | unrecognized (arguments : List String)
  deriving DecidableEq, Repr

def UsageError.message : UsageError → String
  | ambiguous argument candidates =>
    s!"ambiguous option: {argument} could match {Text.commas candidates}"
  | missingValue flag => s!"argument {flag.title}: expected one argument"
  | unexpectedValue flag value =>
    s!"argument {flag.title}: ignored explicit argument {Text.quote value}"
  | conflict flag earlier =>
    s!"argument {flag.title}: not allowed with argument {earlier.title}"
  | unrecognized arguments => "unrecognized arguments: " ++ String.intercalate " " arguments

/-! ### Telling arguments apart -/

inductive Word where
  | plain (text : String)
  /-- An option, and what is written behind it in the same argument. -/
  | option (flag : Flag) (isShort : Bool) (attached : Option (List Char))
  /-- What looks like an option and is none. -/
  | unknown (text : String)
  /-- The pair of dashes behind which there are no options. -/
  | separator
  deriving DecidableEq, Repr

/-- Digits, at least one, and maybe a line break behind them. -/
def isNumeral (s : List Char) : Bool :=
  match Text.spanDigits s with
  | ([], _) => false
  | (_, rest) => rest.isEmpty || rest == ['\n']

/-- A number below zero: digits, or digits behind a point and maybe before it. -/
def isNegativeNumber : List Char → Bool
  | '-' :: s =>
    isNumeral s || match (Text.spanDigits s).2 with
      | '.' :: decimals => isNumeral decimals
      | _ => false
  | _ => false

def isShort : List Char → Bool
  | '-' :: '-' :: _ => false
  | _ => true

/-- The options that an argument may stand for, by the way to write them. -/
def candidates (argument : List Char) : List (List Char × Flag × Option (List Char)) :=
  if isShort argument then
    Flag.table.filterMap fun (spelling, flag) =>
      if spelling = argument.take 2 then some (spelling, flag, some (argument.drop 2))
      else if argument.isPrefixOf spelling then some (spelling, flag, none)
      else none
  else
    let (start, value) := Text.cut '=' argument
    (Flag.table.filter fun entry => start.isPrefixOf entry.1).map fun (spelling, flag) =>
      (spelling, flag, value)

/-- An argument that starts with a dash and is no option as it stands. -/
def classifyDashed (argument : List Char) : Except UsageError Word :=
  match candidates argument with
  | [(spelling, flag, attached)] => .ok (.option flag (isShort spelling) attached)
  | [] =>
    let text := String.ofList argument
    if isNegativeNumber argument || argument.contains ' ' then .ok (.plain text)
    else .ok (.unknown text)
  | found => .error (.ambiguous (String.ofList argument) (found.map fun c => String.ofList c.1))

def classify (argument : String) : Except UsageError Word :=
  let s := argument.toList
  if s.head? != some '-' then .ok (.plain argument)
  else match Flag.table.lookup s with
    | some flag => .ok (.option flag (isShort s) none)
    | none =>
      if s = ['-'] then .ok (.plain argument)
      else match Text.cut '=' s with
        | (start, some value) =>
          match Flag.table.lookup start with
          | some flag => .ok (.option flag (isShort start) (some value))
          | none => classifyDashed s
        | (_, none) => classifyDashed s

/-- What the arguments are; all behind the separator are plain. -/
def classifyAll : List String → Except UsageError (List Word)
  | [] => .ok []
  | argument :: rest =>
    if argument = "--" then .ok (.separator :: rest.map Word.plain)
    else do
      let word ← classify argument
      return word :: (← classifyAll rest)

/-! ### Taking arguments up -/

inductive Operand where
  | text (s : String)
  /-- A pair of dashes attached to the option, which leaves it without a value. -/
  | nothing
  deriving DecidableEq, Repr

def Operand.ofString (s : String) : Operand := if s = "--" then nothing else text s

/-- The text of an operand, empty if there is none. -/
def Operand.content : Operand → String
  | text s => s
  | nothing => ""

structure Arguments where
  descriptorSet : Option String := none
  language : Operand := .text defaultLanguage
  output : Operand := .text "."
  config : Option Operand := none
  /-- The schema files that output is wanted for, if any are named. -/
  files : Option (List Operand) := none
  noRuntime : Bool := false
  dryRun : Bool := false
  verbose : Bool := false
  quiet : Bool := false
  listLanguages : Bool := false
  languageInfo : Option Operand := none
  deriving DecidableEq, Repr

inductive Halt where
  | help
  | version
  | misuse (error : UsageError)
  deriving DecidableEq, Repr

/-- The effect of an option; one without a value ignores it. -/
def Arguments.apply (a : Arguments) (flag : Flag) (value : Operand) : Except Halt Arguments :=
  match flag with
  | .help => .error .help
  | .version => .error .version
  | .language => .ok { a with language := value }
  | .output => .ok { a with output := value }
  | .config => .ok { a with config := some value }
  | .file => .ok { a with files := some (a.files.getD [] ++ [value]) }
  | .noRuntime => .ok { a with noRuntime := true }
  | .dryRun => .ok { a with dryRun := true }
  | .verbose =>
    if a.quiet then .error (.misuse (.conflict .verbose .quiet)) else .ok { a with verbose := true }
  | .quiet =>
    if a.verbose then .error (.misuse (.conflict .quiet .verbose)) else .ok { a with quiet := true }
  | .listLanguages => .ok { a with listLanguages := true }
  | .languageInfo => .ok { a with languageInfo := some value }

/-- The options that share one argument: those before the last, the last one, and what is left for
it in the argument. What is written behind an option without a value has to start with the letter
of another option. -/
def unfold (flag : Flag) (isShort : Bool) (text : List Char) :
    Except UsageError (List Flag × Flag × Option (List Char)) :=
  if flag.takesValue then .ok ([], flag, some text)
  else match text with
    | [] => .error (.unexpectedValue flag "")
    | letter :: rest =>
      match if isShort then Flag.table.lookup ['-', letter] else none with
      | none => .error (.unexpectedValue flag (String.ofList text))
      | some next =>
        match rest with
        | [] => .ok ([flag], next, none)
        | rest@(_ :: _) => do
          let (flags, last, left) ← unfold next true rest
          return (flag :: flags, last, left)

/-- What has been taken up so far: the arguments, whether the plain one has had its turn, and what
has no place. -/
structure Progress where
  arguments : Arguments := {}
  settled : Bool := false
  extras : List String := []

/-- Options without values, one after the other. -/
def Progress.applyAll (p : Progress) (flags : List Flag) : Except Halt Progress := do
  return { p with arguments := ← flags.foldlM (fun a flag => a.apply flag .nothing) p.arguments }

def Progress.apply (p : Progress) (flag : Flag) (value : Operand) : Except Halt Progress := do
  return { p with arguments := ← p.arguments.apply flag value }

def Progress.settle (p : Progress) (text : Option String) : Progress :=
  { p with settled := true, arguments := { p.arguments with descriptorSet := text } }

/-- Something without a place. -/
def Progress.extra (p : Progress) (text : String) : Progress :=
  { p with extras := p.extras ++ [text] }

def unfoldWord (flag : Flag) (isShort : Bool) (attached : Option (List Char)) :
    Except Halt (List Flag × Flag × Option (List Char)) :=
  match attached with
  | none => .ok ([], flag, none)
  | some text => (unfold flag isShort text).mapError Halt.misuse

/-- Takes up arguments. A separator goes with the plain argument next to it. -/
def Progress.run (p : Progress) : List Word → Except Halt Progress
  | [] => .ok p
  | .unknown text :: rest => (p.extra text).run rest
  | .separator :: .plain text :: rest =>
    if p.settled then ((p.extra "--").extra text).run rest else (p.settle (some text)).run rest
  | .separator :: rest =>
    if p.settled then (p.extra "--").run rest else (p.settle none).run rest
  | .plain text :: .separator :: rest =>
    if p.settled then ((p.extra text).extra "--").run rest else (p.settle (some text)).run rest
  | .plain text :: rest =>
    if p.settled then (p.extra text).run rest else (p.settle (some text)).run rest
  | .option flag isShort attached :: rest => do
    let (flags, last, left) ← unfoldWord flag isShort attached
    match left with
    | some value =>
      (← (← p.applyAll flags).apply last (Operand.ofString (String.ofList value))).run rest
    | none =>
      if last.takesValue then
        match rest with
        | .plain value :: rest => (← (← p.applyAll flags).apply last (.text value)).run rest
        | _ => .error (.misuse (.missingValue last))
      else (← (← p.applyAll flags).apply last .nothing).run rest

def Arguments.read (arguments : List String) : Except Halt Arguments := do
  let words ← (classifyAll arguments).mapError Halt.misuse
  let p ← Progress.run {} words
  if p.extras.isEmpty then return p.arguments else .error (.misuse (.unrecognized p.extras))

end RpcBindings.Command
