import SlideDeck.Deck.Form
import SlideDeck.Deck.Passages
import SlideDeck.Deck.ShapeText
import SlideDeck.Notice
import SlideDeck.Text.Quoted

/-!
Building slides. A heading of depth one opens a slide; what stands before the first is dropped.
A shape that cannot be read is reported and left out.
-/

namespace SlideDeck.Deck

def doneGlyph : String := "☑ "
def openGlyph : String := "☐ "

/-- The runs of a task: its glyph stands before the text of the first run. -/
def taskRuns (isDone : Bool) (runs : List Run) : List Run :=
  let glyph := if isDone then doneGlyph else openGlyph
  match runs with
  | first :: rest =>
    if first.text.isEmpty then ⟨glyph, {}⟩ :: first :: rest
    else { first with text := glyph ++ first.text } :: rest
  | [] => [⟨glyph, {}⟩]

/-- The runs of a list item that is no task: the first one carries the bullet. -/
def bulletRuns : List Run → List Run
  | first :: rest => { first with style := { first.style with isBullet := true } } :: rest
  | [] => [⟨"", { isBullet := true }⟩]

def itemRuns (i : Item) : List Run :=
  let runs := resolveAll {} i.phrases
  if runs.isEmpty then [] else if i.isTask then taskRuns i.isDone runs else bulletRuns runs

/-- The text block of runs; no runs make no block. -/
def textBlock? (runs : List Run) : List Element :=
  if runs.isEmpty then [] else [.textBlock runs]

def listBlocks (items : List Item) : List Element := items.flatMap fun i => textBlock? (itemRuns i)

/-- The report of a shape that cannot be read, with the paragraph it stands in. -/
def shapeReport (e : ShapeError) (paragraph : String) : String :=
  e.message ++ " in " ++ Text.quoted (Text.trimmed paragraph)

/-- What a passage adds to the open slide, and what it has to say: to the diagnostics, which are
kept, and to the author, who is told at once. -/
structure Contribution where
  elements : List Element := []
  notes : Option String := none
  diagnostics : List String := []
  notices : List Notice := []

/-- The author is told of a report, and it is kept among the diagnostics. -/
def Contribution.report (message : String) : Contribution :=
  { diagnostics := [message], notices := [.badShape message] }

def paragraphContribution (text : String) (phrases : List Phrase) :
    Except LongNumber Contribution :=
  match formOf text with
  | .note s => .ok { notes := some s }
  | .picture p => .ok { elements := [.picture p] }
  | .shape name options =>
    (parseShape name options).map fun
      | .ok shape => { elements := [.shape shape] }
      | .error e => .report (shapeReport e text)
  | .text => .ok { elements := textBlock? (resolveAll {} phrases) }

def contribution : Passage → Except LongNumber Contribution
  | .paragraph text phrases => paragraphContribution text phrases
  | .list _ items => .ok { elements := listBlocks items }
  | .table header rows => .ok { elements := [.table ⟨header, rows⟩] }
  | .rule => .ok { elements := [.columnBreak] }
  | .heading _ _ | .other _ => .ok {}

def Slide.add (s : Slide) (c : Contribution) : Slide :=
  { s with elements := s.elements ++ c.elements, notes := c.notes.or s.notes }

/-- The slides built from passages, or why building stopped, and the diagnostics and notices given
so far. -/
structure Built where
  slides : Except LongNumber (List Slide)
  diagnostics : List String
  notices : List Notice

/-- Builds on from an open slide, if there is one. -/
def buildFrom : Option Slide → List Passage → Built
  | current, [] => ⟨.ok current.toList, [], []⟩
  | current, .heading 1 title :: ps =>
    let rest := buildFrom (some { title }) ps
    { rest with slides := rest.slides.map (current.toList ++ ·) }
  | none, _ :: ps => buildFrom none ps
  | some slide, p :: ps =>
    match contribution p with
    | .error e => ⟨.error e, [], []⟩
    | .ok c =>
      let rest := buildFrom (some (slide.add c)) ps
      { rest with
        diagnostics := c.diagnostics ++ rest.diagnostics
        notices := c.notices ++ rest.notices }

def build (ps : List Passage) : Built := buildFrom none ps

/-- The slides of a Markdown text. -/
def parseMarkdown (text : String) : Built := build (passages text)

end SlideDeck.Deck
