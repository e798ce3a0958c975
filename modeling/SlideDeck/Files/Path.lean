import SlideDeck.Text.Case
import SlideDeck.Text.Lines
import SlideDeck.Text.Quoted

/-!
Paths of files. A path is read without its empty components and its single dots; double dots stay,
because what they mean depends on the files. A component is never empty, nor a single dot.
-/

namespace SlideDeck.Files

/-- Two slashes in front, and no more than two, are a root of their own. -/
inductive Root where
  | relative
  | single
  | double
deriving DecidableEq, Repr, Inhabited

def Root.text : Root → String
  | .relative => ""
  | .single => "/"
  | .double => "//"

structure Path where
  root : Root
  parts : List String
deriving DecidableEq, Repr, Inhabited

namespace Path

def ofString (s : String) : Path :=
  let slashes := (s.toList.takeWhile (· == '/')).length
  let root := if slashes = 0 then .relative else if slashes = 2 then .double else .single
  let parts := (Text.splitOn '/' s.toList).map String.ofList
  ⟨root, parts.filter fun p => p ≠ "" && p ≠ "."⟩

/-- A path with neither root nor components is the working directory. -/
def text (p : Path) : String :=
  if p.root = .relative && p.parts.isEmpty then "."
  else p.root.text ++ String.intercalate "/" p.parts

/-- The last component, if there is one. -/
def name? (p : Path) : Option String := p.parts.getLast?

def parent (p : Path) : Path := { p with parts := p.parts.dropLast }

def withName (p : Path) (name : String) : Path := { p with parts := p.parts.dropLast ++ [name] }

def isAbsolute (p : Path) : Bool := p.root ≠ .relative

/-- The path `q` as seen from the directory `p`. -/
def join (p q : Path) : Path := if q.isAbsolute then q else { p with parts := p.parts ++ q.parts }

end Path

/-- A name up to its suffix, and the suffix: from the last dot on, unless that dot is the first or
the last character of the name. -/
def splitSuffix (name : List Char) : List Char × List Char :=
  let tail := (name.reverse.takeWhile (· ≠ '.')).reverse
  let stem := name.take (name.length - tail.length - 1)
  if name.contains '.' && !stem.isEmpty && !tail.isEmpty then (stem, '.' :: tail) else (name, [])

/-- The file name of the deck that is made from a document: a suffix `.md` in any letter case gives
way to `.pptx`, which else is appended. -/
def deckName (name : String) : String :=
  let (stem, suffix) := splitSuffix name.toList
  if Text.lower suffix = ".md".toList then String.ofList stem ++ ".pptx" else name ++ ".pptx"

/-- A path without a last component names no document. -/
structure NamelessPath where
  path : Path
deriving DecidableEq, Repr

def NamelessPath.message (e : NamelessPath) : String :=
  "PosixPath(" ++ Text.quoted e.path.text ++ ") has an empty name"

/-- Where the deck made from a document goes: beside the document. -/
def deckPath (p : Path) : Except NamelessPath Path :=
  match p.name? with
  | some name => .ok (p.withName (deckName name))
  | none => .error ⟨p⟩

end SlideDeck.Files
