import SlideDeck.CommandLine.Command
import SlideDeck.Drawing.Description

/-!
The program. It loads the files that the arguments and the document name, runs the command on them
and writes a description of the deck.
-/

namespace SlideDeck.Program

open CommandLine Deck Drawing Files

def usage : String := "usage: md2pptx [-h] [--template TEMPLATE] [--verbose] input [output]"

/-- Follows a path as far as its components tell, with an entry for every directory on the way. -/
def entriesTo (p : Path) (content : Package) : List (Path × Entry Package) :=
  let steps := p.parts.foldl (fun (here, seen) c =>
    let next : Path :=
      if c = ".." then FileTree.above here else { here with parts := here.parts ++ [c] }
    (next, seen ++ [next])) (FileTree.start p, [])
  (steps.2.dropLast.map fun d => (d, .directory)) ++ [(steps.1, .file content)]

/-- The entries for a file, if it can be read. -/
def load (p : Path) : IO (List (Path × Entry Package)) := do
  try
    let octets ← IO.FS.readBinFile p.text
    return entriesTo p (.octets octets.toList)
  catch _ => return []

def loadAll (ps : List Path) : IO (List (Path × Entry Package)) := do
  return (← ps.mapM load).flatten

/-- The paths that the arguments name. -/
def namedPaths (w : Surroundings) (a : Arguments) : List Path :=
  (a.input :: (given a.template).toList).filterMap fun s => (w.path s).toOption

/-- The paths of the pictures in a document. -/
def picturePaths (w : Surroundings) (a : Arguments) : List Path :=
  match w.path a.input with
  | .error _ => []
  | .ok input =>
    match (readText w input).toOption.bind fun text => (parseMarkdown text).slides.toOption with
    | none => []
    | some slides =>
      slides.flatMap fun s => s.elements.filterMap fun
        | .picture p => some (input.parent.join (Path.ofString p.href))
        | _ => none

def surroundings (home : Option Path) (arguments : List String) : IO Surroundings := do
  let w : Surroundings :=
    ⟨{}, fun user => if user = "" then home else none, PictureFormat.verdict, fun _ => []⟩
  match readArguments arguments with
  | .ok (.convert a) =>
    let named ← loadAll (namedPaths w a)
    let w := { w with files := { entries := named } }
    return { w with files := { entries := named ++ (← loadAll (picturePaths w a)) } }
  | _ => return w

def report (a : Answer) : IO UInt32 := do
  match a with
  | .help => IO.println usage; return 0
  | .usage e => IO.eprintln usage; IO.eprintln (usageLine e); return 2
  | .ended o =>
    if let some (path, deck) := o.deck then
      IO.FS.createDirAll path.parent.text
      IO.FS.writeFile path.text (describe deck)
    o.messages.forM IO.eprintln
    IO.print o.output
    return o.code.toUInt32

end SlideDeck.Program

def main (arguments : List String) : IO UInt32 := do
  let home := (← IO.getEnv "HOME").map SlideDeck.Files.Path.ofString
  let w ← SlideDeck.Program.surroundings home arguments
  match SlideDeck.CommandLine.run w arguments with
  | .ok answer => SlideDeck.Program.report answer
  | .error e => throw (IO.userError e.message)
