import SlideDeck.Text.Digit
import SlideDeck.Text.Quoted

/-!
The arguments of the command: a document, where its deck goes, a template, and whether to tell more.
Options may stand anywhere before `--` and may be shortened as long as they stay unique; the two
positional arguments have to stand together.
-/

namespace SlideDeck.CommandLine

structure Arguments where
  input : String
  output : Option String
  template : Option String
  verbose : Bool
deriving DecidableEq, Repr

inductive Request where
  | help
  | convert (a : Arguments)
deriving DecidableEq, Repr

inductive Switch where
  | help
  | template
  | verbose
deriving DecidableEq, Repr

namespace Switch

def all : List Switch := [.help, .template, .verbose]

def longName : Switch → String
  | .help => "--help"
  | .template => "--template"
  | .verbose => "--verbose"

/-- Every way to write an option, as messages name it. -/
def names : Switch → String
  | .help => "-h/--help"
  | s => s.longName

end Switch

inductive UsageError where
  | ambiguous (argument : String) (candidates : List Switch)
  | ignoredValue (s : Switch) (value : String)
  | noTemplate
  | noInput
  | unrecognized (arguments : List String)
deriving DecidableEq, Repr

def UsageError.message : UsageError → String
  | .ambiguous argument candidates =>
    "ambiguous option: " ++ argument ++ " could match " ++
      String.intercalate ", " (candidates.map Switch.longName)
  | .ignoredValue s value =>
    "argument " ++ s.names ++ ": ignored explicit argument " ++ Text.quoted value
  | .noTemplate => "argument " ++ Switch.template.names ++ ": expected one argument"
  | .noInput => "the following arguments are required: input"
  | .unrecognized arguments => "unrecognized arguments: " ++ String.intercalate " " arguments

/-- What an argument looks like. The value of an option may stand in the same argument. -/
inductive Token where
  | word (s : String)
  | separator
  | switch (s : Switch) (value : Option String)
  | unknown (s : String)
deriving DecidableEq, Repr

/-- A minus sign with digits, and a point between or before them. -/
def isNegativeNumber (s : List Char) : Bool :=
  let isDigit (c : Char) := (Text.decimalDigit? c).isSome
  match s with
  | '-' :: r =>
    let r := if r.getLast? = some '\n' then r.dropLast else r
    match r.dropWhile isDigit with
    | [] => !r.isEmpty
    | '.' :: fraction => !fraction.isEmpty && fraction.all isDigit
    | _ => false
  | _ => false

/-- The part of a long option before the first equals sign, and the value behind it. -/
def splitValue (s : List Char) : List Char × Option String :=
  match s.dropWhile (· ≠ '=') with
  | _ :: value => (s.takeWhile (· ≠ '='), some (String.ofList value))
  | [] => (s, none)

/-- The value that options in the short form are given. What follows a switch is a value only
behind an equals sign or if it starts with a hyphen; else it is further switches. -/
def shortValue? (s : List Char) : Option String :=
  match s.dropWhile (· == 'h') with
  | '=' :: value => some (String.ofList value)
  | '-' :: value => some (String.ofList ('-' :: value))
  | _ => none

/-- The options that an argument with two hyphens may be short for. -/
def candidates (s : List Char) : List Switch :=
  Switch.all.filter fun w => s.isPrefixOf w.longName.toList

/-- An argument that is no option, unless it looks like one. -/
def other (s : String) : Token :=
  if isNegativeNumber s.toList || s.toList.contains ' ' then .word s else .unknown s

def token (s : String) : Except UsageError Token :=
  match s.toList with
  | '-' :: '-' :: r =>
    let (name, value) := splitValue ('-' :: '-' :: r)
    match candidates name with
    | [] => .ok (other s)
    | [w] => .ok (.switch w value)
    | ws => .error (.ambiguous s ws)
  | '-' :: 'h' :: r =>
    .ok (.switch .help (shortValue? ('h' :: r)))
  | '-' :: _ :: _ => .ok (other s)
  | _ => .ok (.word s)

/-- Behind the first `--`, all arguments are words. -/
def tokens : List String → Except UsageError (List Token)
  | [] => .ok []
  | s :: ss =>
    if s = "--" then .ok (.separator :: ss.map .word)
    else do
      let t ← token s
      let ts ← tokens ss
      return t :: ts

/-- Which positional argument may come next. -/
inductive Stage where
  | input
  | output
  | ended
  | closed
deriving DecidableEq, Repr

structure Progress where
  stage : Stage := .input
  input : Option String := none
  output : Option String := none
  template : Option String := none
  verbose : Bool := false
  unrecognized : List String := []
deriving Repr

namespace Progress

def addUnrecognized (p : Progress) (s : String) : Progress :=
  { p with unrecognized := p.unrecognized ++ [s] }

/-- An output that is written `--` is none. -/
def addWord (p : Progress) (s : String) : Progress :=
  match p.stage with
  | .input => { p with input := some s, stage := .output }
  | .output => { p with output := if s = "--" then none else some s, stage := .ended }
  | .ended | .closed => { p with stage := .closed }.addUnrecognized s

/-- Next to a positional argument a separator is no argument of its own. -/
def addSeparator (p : Progress) : Progress :=
  if p.stage = .closed then p.addUnrecognized "--" else p

/-- An option after the input ends the positional arguments. -/
def interrupt (p : Progress) : Progress :=
  if p.stage = .input then p else { p with stage := .closed }

def finish (p : Progress) : Except UsageError Request :=
  match p.input with
  | none => .error .noInput
  | some input =>
    if p.unrecognized.isEmpty then .ok (.convert ⟨input, p.output, p.template, p.verbose⟩)
    else .error (.unrecognized p.unrecognized)

def setTemplate (p : Progress) (s : String) : Progress := { p.interrupt with template := some s }

end Progress

/-- Takes the arguments one by one; help is given at once, whatever follows. -/
def consume (p : Progress) : List Token → Except UsageError Request
  | [] => p.finish
  | .word s :: ts => consume (p.addWord s) ts
  | .separator :: ts => consume p.addSeparator ts
  | .unknown s :: ts => consume (p.interrupt.addUnrecognized s) ts
  | .switch .help none :: _ => .ok .help
  | .switch .help (some value) :: _ => .error (.ignoredValue .help value)
  | .switch .verbose none :: ts => consume { p.interrupt with verbose := true } ts
  | .switch .verbose (some value) :: _ => .error (.ignoredValue .verbose value)
  | .switch .template (some value) :: ts => consume (p.setTemplate value) ts
  | .switch .template none :: .word s :: ts => consume (p.setTemplate s) ts
  | .switch .template none :: _ => .error .noTemplate

def readArguments (arguments : List String) : Except UsageError Request := do
  consume {} (← tokens arguments)

end SlideDeck.CommandLine
