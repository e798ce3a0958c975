import SlideDeck.Deck.Run
import SlideDeck.Drawing.Length
import SlideDeck.Files.FileTree
import SlideDeck.Text.CodePoints
import SlideDeck.Text.Lines

/-!
Paragraphs of drawn text. A text block keeps its runs and starts a paragraph at each line break; a
plain text starts one at each line feed. Control characters are escaped, and two code points that
are no characters cannot be written at all.
-/

namespace SlideDeck.Drawing

open Deck

inductive TemplateError where
  | noArchive
  | noContentTypes
  | noPresentation
  | noLayout
deriving DecidableEq, Repr

def TemplateError.message : TemplateError → String
  | .noArchive => "File is not a zip file"
  | .noContentTypes => "\"There is no item named '[Content_Types].xml' in the archive\""
  | .noPresentation => "\"There is no presentation in the archive\""
  | .noLayout => "slide layout index out of range"

inductive DrawError where
  | length (e : LengthError)
  | emptyLink
  | unwritableText
  | surrogate (f : Text.SurrogateFault)
  | file (f : Files.Fault)
  | picture (message : String)
  | template (e : TemplateError)
deriving DecidableEq, Repr

def DrawError.message : DrawError → String
  | .length e => e.message
  | .emptyLink => "'NoneType' object has no attribute 'set'"
  | .unwritableText =>
    "All strings must be XML compatible: Unicode or ASCII, no NULL bytes or control characters"
  | .surrogate f => f.message
  | .file f => f.message
  | .picture message => message
  | .template e => e.message

/-- A size is in hundredths of a point; without one, the size of the surroundings holds. -/
structure Span where
  text : String
  size : Option Nat := none
  bold : Bool := false
  italic : Bool := false
  monospace : Bool := false
  link : Option Hyperlink := none
deriving DecidableEq, Repr, Inhabited

inductive Piece where
  | span (s : Span)
  | lineBreak
deriving DecidableEq, Repr

structure Paragraph where
  bulleted : Bool := false
  pieces : List Piece := []
deriving DecidableEq, Repr, Inhabited

def titleSize : Nat := 3200
def bodySize : Nat := 1800

/-- All controls but tab and line feed. -/
def isEscaped (c : Char) : Bool := c.toNat ≤ 8 || (11 ≤ c.toNat && c.toNat ≤ 31)

def escapeControl (c : Char) : List Char :=
  if isEscaped c then
    ['_', 'x'] ++ (Text.hexDigits 4 c.toNat).map Char.toUpper ++ ['_']
  else [c]

def isCharacter (c : Char) : Bool := c ≠ '\ufffe' && c ≠ '\uffff'

/-- A text as it is written into a run. -/
def writtenText (s : List Char) : Except DrawError String :=
  if s.all isCharacter then .ok (String.ofList (s.flatMap escapeControl))
  else .error .unwritableText

/-- Where nothing is escaped, no control can be written but tab, line feed and carriage return. -/
def isPlainText (s : String) : Bool :=
  s.toList.all fun c => isCharacter c && (!isEscaped c || c = '\r')

/-- The address of a link may not be empty. Whether it can be written shows only at the end. -/
def checkLink (l : Hyperlink) : Except DrawError Hyperlink :=
  if l.url.isEmpty then .error .emptyLink
  else if isPlainText l.tooltip then .ok l
  else .error .unwritableText

def runSpan (r : Run) : Except DrawError Span := do
  let text ← writtenText r.text.toList
  let link ← r.style.hyperlink.mapM checkLink
  return { text, size := some bodySize, bold := r.style.bold, italic := r.style.italic,
           monospace := r.style.monospace, link }

/-- The paragraphs of a text block from an open paragraph on. The bullet goes to the paragraph in
which the first run with a bullet stands; runs without text are left out. -/
def blockFrom (bulleted : Bool) (current : Paragraph) : List Run → Except DrawError (List Paragraph)
  | [] => .ok [current]
  | r :: rs => do
    let marks := r.style.isBullet && !bulleted
    let current := { current with bulleted := current.bulleted || marks }
    if r.style.breaksLine then
      let rest ← blockFrom (bulleted || marks) {} rs
      return current :: rest
    else if r.text.isEmpty then blockFrom (bulleted || marks) current rs
    else
      let s ← runSpan r
      blockFrom (bulleted || marks) { current with pieces := current.pieces ++ [.span s] } rs

def blockParagraphs (runs : List Run) : Except DrawError (List Paragraph) := blockFrom false {} runs

/-- The span of the text between two breaks; no text makes no span. -/
def textPieces (s : List Char) : Except DrawError (List Piece) :=
  if s.isEmpty then .ok [] else (writtenText s).map fun text => [.span { text }]

def lineParagraph (s : List Char) : Except DrawError Paragraph := do
  let parts ← (Text.splitOn '\u000b' s).mapM textPieces
  return { pieces := Text.joinWith [.lineBreak] parts }

/-- The paragraphs of a plain text, in which a vertical tab breaks a line. -/
def textParagraphs (s : String) : Except DrawError (List Paragraph) :=
  (Text.splitOn '\n' s.toList).mapM lineParagraph

def titleParagraph (s : String) : Except DrawError Paragraph := do
  let text ← writtenText s.toList
  return { pieces := [.span { text, size := some titleSize, bold := true }] }

def Piece.text : Piece → String
  | .span s => s.text
  | .lineBreak => "\x0b"

def Paragraph.text (p : Paragraph) : String := String.join (p.pieces.map Piece.text)

/-- The links of paragraphs. -/
def paragraphLinks (ps : List Paragraph) : List Hyperlink :=
  ps.flatMap fun p => p.pieces.filterMap fun
    | .span s => s.link
    | .lineBreak => none

end SlideDeck.Drawing
