import SlideDeck.Drawing.Package
import SlideDeck.Drawing.PictureFormat
import SlideDeck.Layout.Flow
import SlideDeck.Notice

/-!
Drawing a deck into a presentation. Each slide takes over the placeholders of the layout; its title
goes to the title placeholder, or to a text box if there is none, and the placed elements follow in
their order. A picture that cannot be drawn is left out and reported; other faults stop the
drawing.
-/

namespace SlideDeck.Drawing

open Deck Layout Files

structure Presentation where
  width : Int
  height : Int
  slides : List DrawnSlide

/-- Where pictures are looked up, in a tree of files and from a directory on, and who reads them. -/
structure Gallery where
  files : FileTree Package
  base : Option Path
  reader : PictureReader

abbrev Draw (α : Type) := Logged DrawError α

def boxFor (b : Box Float) : Draw (Box Int) :=
  Logged.ofExcept ((boxOfInches b).mapError .length)

/-- Where an address leads to, if to a file. One with a scheme is that of no local file. -/
def pictureFile? (g : Gallery) (href : String) : Except Fault (Option Path) := do
  if occursIn "://".toList href.toList || href.toList.contains '\x00' then return none
  let path := Path.ofString href
  let path := match g.base with
    | some base => base.join path
    | none => path
  return if ← g.files.isFile path then some path else none

/-- What a file holds as a picture, or why it is none. The reader may break off. -/
def pictureOctets (g : Gallery) (path : Path) :
    Except DrawError (Except PictureFault (List UInt8)) :=
  match g.files.read path with
  | .error f => .ok (.error (.file f))
  | .ok (.octets s) =>
    match g.reader s with
    | .drawable => .ok (.ok s)
    | .refused reason => .ok (.error (.refused reason))
    | .broken message => .error (.picture message)
  | .ok _ => .ok (.error (.refused PictureFormat.unidentified))

/-- The figure of a picture, or why there is none. A picture whose box is undefined is left out as
well, but one whose box is too large is not. -/
def pictureFigure (g : Gallery) (b : Box Float) (href : String) :
    Except DrawError (Except PictureFault Figure) := do
  match ← (pictureFile? g href).mapError .file with
  | none => return .error .notReadable
  | some path =>
    match boxOfInches b with
    | .error .undefined => return .error .undefinedBox
    | .error e => .error (.length e)
    | .ok box => return (← pictureOctets g path).map (.picture box)

def drawPicture (g : Gallery) (b : Box Float) (p : Picture) : Draw (List Figure) := do
  match ← Logged.ofExcept (pictureFigure g b p.href) with
  | .ok figure => return [figure]
  | .error fault => do
    Logged.give (.skippedPicture p.href fault)
    return []

/-- The rows of a table, its header first, all filled up to the longest of them. -/
def tableGrid (t : Table) : List (List String) :=
  let rows := t.header :: t.rows
  let columns := rows.foldl (fun n r => max n r.length) 1
  rows.map fun r => r ++ List.replicate (columns - r.length) ""

def drawTable (b : Box Float) (t : Table) : Draw Figure := do
  let box ← boxFor b
  let rows ← Logged.ofExcept ((tableGrid t).mapM fun r => r.mapM textParagraphs)
  return .table box rows

/-- The width that the line of a shape asks for. -/
def lineWidth? : Option Json.Value → Except LengthError (Option Int)
  | some (.object o) =>
    match (Json.Object.get? o "width").bind pointsOption? with
    | some width => do return some (← checkLineWidth (← width))
    | none => .ok none
  | _ => .ok none

def optionColor (o : Json.Object) (key : String) : Draw (Option Color) :=
  match Json.Object.get? o key with
  | some v => colorOption v
  | none => pure none

def lineStyle (o : Json.Object) : Draw (Option LineStyle) := do
  let color ← optionColor o "line"
  let width ← Logged.ofExcept ((lineWidth? (Json.Object.get? o "line")).mapError .length)
  return if color.isNone && width.isNone then none
    else some ⟨color, width.bind fun n => if n = 0 then none else some n⟩

/-- The outline of a kind of shape; a line has none. -/
def outline? : ShapeKind → Option Outline
  | .rectangle => some .rectangle
  | .oval | .ellipse => some .ellipse
  | .triangle => some .triangle
  | .line => none

/-- The paragraphs of a text that may hold surrogates. None can be written; but the pieces between
breaks are written one after the other, so that another fault may come before the first of them. -/
def codePointParagraphs (s : Text.CodePoints) : Except DrawError (List Paragraph) :=
  let pieces := (Text.splitOn '\n' s.start.toList).flatMap (Text.splitOn '\u000b')
  let place := ((pieces.getLast?.getD []).flatMap escapeControl).length
  match Text.CodePoints.faultAt? place s.rest with
  | none => textParagraphs s.start
  | some fault =>
    if pieces.dropLast.all fun piece => piece.all isCharacter then .error (.surrogate fault)
    else .error .unwritableText

/-- The text in a shape is the option of that name, if it is a string. -/
def shapeParagraphs (o : Json.Object) : Except DrawError (List Paragraph) :=
  match Json.Object.get? o "text" with
  | some (.string s) => codePointParagraphs s
  | _ => .ok [{}]

/-- The fill of a line is looked at, but not drawn. -/
def drawShape (b : Box Float) (s : Shape) : Draw Figure := do
  let box ← boxFor b
  let fill ← optionColor s.options "fill"
  let line ← lineStyle s.options
  match outline? s.kind with
  | none => return .connector box line
  | some outline =>
    let paragraphs ← Logged.ofExcept (shapeParagraphs s.options)
    return .shape outline box fill line paragraphs

def drawTextBlock (b : Box Float) (runs : List Run) : Draw Figure := do
  let box ← boxFor b
  let paragraphs ← Logged.ofExcept (blockParagraphs runs)
  return .textBox box paragraphs

def drawElement (g : Gallery) (p : Placed Float) : Draw (List Figure) :=
  match p.element with
  | .textBlock runs => return [← drawTextBlock p.box runs]
  | .picture pic => drawPicture g p.box pic
  | .table t => return [← drawTable p.box t]
  | .shape s => return [← drawShape p.box s]
  | .columnBreak => return []

/-- The least index of a placeholder for a title. -/
def titleIndex? (ps : List Placeholder) : Option Nat :=
  ((ps.filter (·.kind.isTitle)).map Placeholder.index).min?

/-- Placeholders of which the first one for a title with an index holds the title and is moved to a
box. -/
def withTitle (box : Box Int) (title : Paragraph) (index : Nat) : List Placeholder → List Figure
  | [] => []
  | p :: ps =>
    if p.kind.isTitle && p.index == index then
      .placeholder p.kind box [title] :: ps.map fun q => .placeholder q.kind q.box [{}]
    else .placeholder p.kind p.box [{}] :: withTitle box title index ps

/-- The placeholders of a slide. Of those for a title the one with the least index holds the title;
if there is none, a text box follows them. -/
def titledPlaceholders (box : Box Int) (title : Paragraph) (ps : List Placeholder) : List Figure :=
  match titleIndex? ps with
  | some index => withTitle box title index ps
  | none => (ps.map fun q => .placeholder q.kind q.box [{}]) ++ [.textBox box [title]]

def drawElements (g : Gallery) : List (Placed Float) → Draw (List Figure)
  | [] => return []
  | p :: ps => do
    let figures ← drawElement g p
    let rest ← drawElements g ps
    return figures ++ rest

/-- Empty notes are none. -/
def drawNotes (notes : Option String) : Except DrawError (Option (List Paragraph)) :=
  match notes with
  | none => .ok none
  | some s => if s.isEmpty then .ok none else (textParagraphs s).map some

def drawSlide (g : Gallery) (l : SlideLayout) (s : PlacedSlide Float) : Draw DrawnSlide := do
  let box ← boxFor titleBox
  let title ← Logged.ofExcept (titleParagraph s.title)
  let figures ← drawElements g s.elements
  let notes ← Logged.ofExcept (drawNotes s.notes)
  return ⟨l.name, notes, titledPlaceholders box title l.placeholders ++ figures⟩

def drawSlides (g : Gallery) (l : SlideLayout) : List (PlacedSlide Float) → Draw (List DrawnSlide)
  | [] => return []
  | s :: ss => do
    let slide ← drawSlide g l s
    let rest ← drawSlides g l ss
    return slide :: rest

/-- Takes away the slide in front of a position, and so on down to the first slide. -/
def removeSlides (slides : List DrawnSlide) : (position : Nat) → List DrawnSlide
  | 0 => slides
  | n + 1 => removeSlides (slides.eraseIdx n) n

/-- Whether the addresses of all links can be written. -/
def areLinksPlain (slides : List DrawnSlide) : Bool :=
  slides.all fun s => s.figures.all fun f => f.links.all fun l => isPlainText l.url

def drawDeck (g : Gallery) (template : Option Package) (slides : List (PlacedSlide Float)) :
    Draw Presentation := do
  let t ← Logged.ofExcept ((openTemplate template).mapError .template)
  let brought := broughtSlides template
  let kept := removeSlides brought brought.length
  let layout ← Logged.ofExcept (t.layout.mapError .template)
  let drawn ← drawSlides g layout slides
  if areLinksPlain (kept ++ drawn) then return ⟨t.width, t.height, kept ++ drawn⟩
  else Logged.fail .unwritableText

end SlideDeck.Drawing
