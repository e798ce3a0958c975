import SlideDeck.CommandLine.Arguments
import SlideDeck.Conversion
import SlideDeck.Text.Octets

/-!
The command: it reads a document, converts it and writes the deck. Files that cannot be read or
written end it with a message; other failures are passed on.
-/

namespace SlideDeck.CommandLine

open Drawing Files

inductive CommandError where
  | namelessPath (e : NamelessPath)
  | unknownHome
  | nulInPath
  | file (f : Fault)
  | noText (f : Text.OctetFault)
  | conversion (e : ConversionError)
deriving DecidableEq, Repr

namespace CommandError

def message : CommandError → String
  | .namelessPath e => e.message
  | .unknownHome => "Could not determine home directory."
  | .nulInPath => "embedded null byte"
  | .file f => f.message
  | .noText f => f.message
  | .conversion e => e.message

/-- Whether the command reports the failure itself. -/
def isReported : CommandError → Bool
  | .file _ | .noText _ | .conversion (.draw (.file _)) => true
  | _ => false

end CommandError

/-- The surroundings of the command: its files, and the home directories of users; the user who
runs it goes by the empty name. There is a reader of pictures, and the octets of archives, which
their members do not tell. -/
structure Surroundings where
  files : FileTree Package
  home? : String → Option Path
  reader : PictureReader
  archived : Package → List UInt8

/-- The octets of a file. -/
def Surroundings.octets (w : Surroundings) : Package → List UInt8
  | .octets s => s
  | p => w.archived p

/-- A path that starts with `~` and the name of a user starts in the home directory of that user. -/
def Surroundings.expand (w : Surroundings) (p : Path) : Except CommandError Path :=
  match p.root, p.parts with
  | .relative, first :: rest =>
    match first.toList with
    | '~' :: user =>
      match w.home? (String.ofList user) with
      | some home => .ok { home with parts := home.parts ++ rest }
      | none => .error .unknownHome
    | _ => .ok p
  | _, _ => .ok p

def Surroundings.path (w : Surroundings) (s : String) : Except CommandError Path :=
  w.expand (Path.ofString s)

/-- An argument that is empty counts as not given. -/
def given (a : Option String) : Option String := a.filter (· ≠ "")

def outputPath (w : Surroundings) (a : Arguments) (input : Path) : Except CommandError Path :=
  match given a.output with
  | some s => w.path s
  | none => (deckPath input).mapError .namelessPath

def checkPath (p : Path) : Except CommandError Unit :=
  if p.text.toList.contains '\x00' then .error .nulInPath else .ok ()

def readFile (w : Surroundings) (p : Path) : Except CommandError Package := do
  checkPath p
  (w.files.read p).mapError .file

/-- The text of octets. -/
def documentText (s : List UInt8) : Except Text.OctetFault String :=
  (Text.ofOctets s).map fun t => String.ofList (Text.unifyLineEnds t)

def readText (w : Surroundings) (p : Path) : Except CommandError String := do
  (documentText (w.octets (← readFile w p))).mapError .noText

def readTemplate? (w : Surroundings) (a : Arguments) : Except CommandError (Option Package) :=
  match given a.template with
  | none => .ok none
  | some s => do return some (← readFile w (← w.path s))

/-- The file of a presentation has the layouts of its template. -/
def packageOf (template : Option Package) (p : Presentation) : Package :=
  let t := (openTemplate template).toOption.getD .plain
  .presentation { t with width := p.width, height := p.height } p.slides

/-- Where a command stands: its surroundings as they are now, and what it has told. -/
structure Standing where
  surroundings : Surroundings
  notices : List Notice := []

/-- A part of the command. What it does before it fails stays done. -/
abbrev Work := ExceptT CommandError (StateM Standing)

namespace Work

variable {α : Type}

/-- Looks at the surroundings. -/
def look (f : Surroundings → Except CommandError α) : Work α := fun s => (f s.surroundings, s)

def tell (n : Notice) : Work Unit := modify fun s => { s with notices := s.notices ++ [n] }

/-- Works something out from the surroundings and tells its notices. -/
def workOut (f : Surroundings → Logged CommandError α) : Work α := fun s =>
  let r := f s.surroundings
  (r.result, { s with notices := s.notices ++ r.notices })

/-- Changes the files, perhaps in part only. -/
def changeFiles (f : FileTree Package → FileTree Package × Except Fault α) : Work α := fun s =>
  let (files, r) := f s.surroundings.files
  (r.mapError .file, { s with surroundings := { s.surroundings with files } })

end Work

open Work

/-- Makes the directories above the deck that are missing, and writes the deck. -/
def writeDeck (output : Path) (deck : Package) : Work Unit := do
  look fun _ => checkPath output.parent
  changeFiles (·.makeDirectories output.parent)
  look fun _ => checkPath output
  changeFiles fun t => t.attempt (t.write output deck)

/-- Converts a document and writes the deck; the pictures are looked up beside the document. -/
def convertFile (a : Arguments) : Work (Path × Presentation) := do
  let input ← look (·.path a.input)
  let output ← look (outputPath · a input)
  let text ← look (readText · input)
  let template ← look (readTemplate? · a)
  tell (.converting input.text)
  let deck ← workOut fun w =>
    (convert ⟨w.files, some input.parent, w.reader⟩ template text).mapError .conversion
  writeDeck output (packageOf template deck)
  return (output, deck)

def noticeLine (n : Notice) : String :=
  "[" ++ n.level.name ++ "] " ++ n.speaker ++ ": " ++ n.text

/-- Information is told only when it is asked for. -/
def isTold (verbose : Bool) (n : Notice) : Bool := verbose || n.level ≠ .info

/-- How the command ended: its exit code, what it wrote to its two outputs, the files, and the deck
with its path. -/
structure Outcome where
  code : Nat
  output : String
  messages : List String
  files : FileTree Package
  deck : Option (Path × Presentation)

def outcome (a : Arguments) (result : Except CommandError (Path × Presentation)) (s : Standing) :
    Except CommandError Outcome :=
  let told := (s.notices.filter (isTold a.verbose)).map noticeLine
  let files := s.surroundings.files
  match result with
  | .ok (output, deck) =>
    .ok ⟨0, "Written " ++ output.text ++ "\n", told, files, some (output, deck)⟩
  | .error e =>
    if e.isReported then .ok ⟨1, "", told ++ ["[FATAL ERROR] " ++ e.message], files, none⟩
    else .error e

/-- A request for help and a fault in the arguments end the command before it starts. -/
inductive Answer where
  | help
  | usage (e : UsageError)
  | ended (o : Outcome)

def usageLine (e : UsageError) : String := "md2pptx: error: " ++ e.message

/-- The files after a command, and its answer or the failure that it passed on. -/
structure Execution where
  files : FileTree Package
  answer : Except CommandError Answer

def execute (w : Surroundings) (arguments : List String) : Execution :=
  match readArguments arguments with
  | .error e => ⟨w.files, .ok (.usage e)⟩
  | .ok .help => ⟨w.files, .ok .help⟩
  | .ok (.convert a) =>
    let (result, s) := (convertFile a).run { surroundings := w }
    ⟨s.surroundings.files, (outcome a result s).map .ended⟩

def run (w : Surroundings) (arguments : List String) : Except CommandError Answer :=
  (execute w arguments).answer

end SlideDeck.CommandLine
